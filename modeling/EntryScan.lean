import EntryScan.Address
import EntryScan.AddressMap
import EntryScan.Amd64.Decode
import EntryScan.Amd64.Encoding
import EntryScan.Amd64.Operand
import EntryScan.Analysis
import EntryScan.Arch
import EntryScan.Arm64.Decode
import EntryScan.Arm64.Operand
import EntryScan.Bytes
import EntryScan.CallGraph
import EntryScan.CallSite.Basic
import EntryScan.CallSite.Scan
import EntryScan.Candidate.Basic
import EntryScan.Candidate.Merge
import EntryScan.CommandLine.Options
import EntryScan.CommandLine.Run
import EntryScan.CommandLine.Surroundings
import EntryScan.Confidence
import EntryScan.Config
import EntryScan.Decoder
import EntryScan.Deflate
import EntryScan.Deflate.Block
import EntryScan.Deflate.Code
import EntryScan.Detector
import EntryScan.Disk
import EntryScan.Elf.Header
import EntryScan.Elf.Image
import EntryScan.Elf.Load
import EntryScan.Elf.Problem
import EntryScan.Elf.Section
import EntryScan.Fault
import EntryScan.FaultFamily
import EntryScan.Instruction
import EntryScan.Log.Fill
import EntryScan.Log.Level
import EntryScan.Log.Loggers
import EntryScan.Log.Record
import EntryScan.Log.Template
import EntryScan.Lookbehind
import EntryScan.Main
import EntryScan.Notice
import EntryScan.Number.Decimal
import EntryScan.Number.Fault
import EntryScan.Number.Hex
import EntryScan.Number.Literal
import EntryScan.Prologue.Basic
import EntryScan.Prologue.Scan
import EntryScan.Proofs.Address
import EntryScan.Proofs.AddressMap
import EntryScan.Proofs.Analysis
import EntryScan.Proofs.Decoding
import EntryScan.Proofs.Edges
import EntryScan.Proofs.Lookbehind
import EntryScan.Proofs.Merge
import EntryScan.Proofs.Patterns
import EntryScan.Proofs.Region
import EntryScan.Proofs.Walk
import EntryScan.Registry
import EntryScan.Report
import EntryScan.Session
import EntryScan.Sweep
import EntryScan.Text.Blank
import EntryScan.Text.Digit
import EntryScan.Text.Printable
import EntryScan.Text.Quoted
import EntryScan.Text.Upper
import EntryScan.Text.Utf8
import EntryScan.Text.WordChar
import EntryScan.Value.Basic
import EntryScan.Value.Json
import EntryScan.Proofs.Restart
import EntryScan.Proofs.Extension
import EntryScan.Proofs.Owner
import EntryScan.Proofs.CallGraph
import EntryScan.Proofs.Agreement
import EntryScan.Proofs.ReportGraph
import EntryScan.Proofs.Portable
import EntryScan.Proofs.Relocation
import EntryScan.Proofs.Assembly
import EntryScan.Proofs.Amd64Branches
import EntryScan.Proofs.Arm64Branches
import EntryScan.Proofs.RecordOrder
import EntryScan.Proofs.ImageContents
import EntryScan.Proofs.Blueprint
import EntryScan.Proofs.Loading
import EntryScan.Proofs.LogLines
import EntryScan.Proofs.Desk
import EntryScan.Proofs.Arguments
import EntryScan.Proofs.Material
import EntryScan.Proofs.ExitCode
import EntryScan.Proofs.AddressText
import EntryScan.Proofs.RawAgreement
import EntryScan.Proofs.Sites
import EntryScan.Proofs.Registrations
import EntryScan.Proofs.FileFaults
import EntryScan.Proofs.Evidence
import EntryScan.Proofs.GraphContents
import EntryScan.Proofs.Markers
import EntryScan.Proofs.MergeOrder
import EntryScan.Proofs.AddressRoundTrip
import EntryScan.Proofs.EdgeContents
import EntryScan.Proofs.LiteralGrammar
import EntryScan.Proofs.Encodings
import EntryScan.Proofs.JsonGrammar
import EntryScan.Proofs.JsonReader
import EntryScan.Proofs.JsonRoundTrip
