import Nsis.Groups
import Nsis.Installer.Session
import Nsis.Main
import Nsis.Proofs.Bzip2.BitQueue
import Nsis.Report.Dump
import Nsis.Script.Load
import Nsis.Script.Processor
import Nsis.Symbol.Draft
import Nsis.Proofs.Bzip2.CanonicalCode
import Nsis.Proofs.Bzip2.Columns
import Nsis.Proofs.Bzip2.Verdict
import Nsis.Proofs.Bzip2.Buffering
import Nsis.Proofs.Bzip2.Expansion
import Nsis.Proofs.Bzip2.Rotations
import Nsis.Proofs.Bzip2.Format
import Nsis.Proofs.Bzip2.Gathered
import Nsis.Proofs.Bzip2.Header
import Nsis.Proofs.Bzip2.Symbols
import Nsis.Proofs.Bzip2.RoundTrip
import Nsis.Proofs.Bzip2.Soundness
import Nsis.Proofs.Bzip2.Ticks
import Nsis.Proofs.Bzip2.Safety
import Nsis.Proofs.Symbol.Grammar
import Nsis.Proofs.Symbol.Unambiguous
import Nsis.Proofs.Installer.Listing
import Nsis.Proofs.Bzip2.Machine
import Nsis.Proofs.Bzip2.Termination
import Nsis.Proofs.Bzip2.Opening
import Nsis.Proofs.Bzip2.Selections
import Nsis.Proofs.Bzip2.Unsorting
import Nsis.Proofs.Bzip2.Codewords
import Nsis.Proofs.Bzip2.RunLengths
import Nsis.Proofs.Image.Recognition
import Nsis.Proofs.Image.Unpacking
import Nsis.Proofs.Image.Framing
import Nsis.Proofs.Deflate.Trailing
import Nsis.Proofs.Image.Solid
import Nsis.Proofs.Installer.History
import Nsis.Proofs.Installer.Division
import Nsis.Proofs.Script.Decoding
import Nsis.Proofs.Script.PluginCalls
import Nsis.Proofs.Script.Edges
import Nsis.Proofs.Symbol.Codings
import Nsis.Proofs.Script.Loading
import Nsis.Proofs.Image.Records
import Nsis.Proofs.Installer.Parsing
import Nsis.Proofs.Script.EntryPoints
import Nsis.Proofs.Script.LoadedEntries
import Nsis.Proofs.Installer.Independence
import Nsis.Proofs.Symbol.Parts
import Nsis.Proofs.Symbol.Skipping
import Nsis.Proofs.Script.SpecialForms
import Nsis.Proofs.Script.StringNames
import Nsis.Proofs.Image.Search
import Nsis.Proofs.Installer.Splitting
import Nsis.Proofs.Script.PluginNames
import Nsis.Proofs.Bzip2.ChunkedReads
import Nsis.Proofs.Text.Hexadecimal
import Nsis.Proofs.Report.PageSection
import Nsis.Proofs.Report.Requests
import Nsis.Proofs.Report.Operations
