import FabricConfig.Main
import FabricConfig.Document.Json
import FabricConfig.Document.Reader
import FabricConfig.Proofs.Text.Cutting
import FabricConfig.Proofs.Text.Lines
import FabricConfig.Proofs.Document.Slots
import FabricConfig.Proofs.Document.Writable
import FabricConfig.Proofs.Document.RoundTrip
import FabricConfig.Proofs.Device.Grid
import FabricConfig.Proofs.Device.Entries
import FabricConfig.Proofs.Device.Soundness
import FabricConfig.Proofs.Device.Loading
import FabricConfig.Proofs.Design.Soundness
import FabricConfig.Proofs.Design.Building
import FabricConfig.Proofs.Design.Bindings
import FabricConfig.Proofs.Design.Naming
import FabricConfig.Proofs.Design.History
import FabricConfig.Proofs.Design.Loading
import FabricConfig.Proofs.Generation.Plan
import FabricConfig.Proofs.Generation.Footprint
import FabricConfig.Proofs.Generation.Safety
import FabricConfig.Proofs.Generation.Sharing
import FabricConfig.Proofs.Generation.Setting
import FabricConfig.Proofs.Generation.Arcs
import FabricConfig.Proofs.Generation.Cells
import FabricConfig.Proofs.Document.LastEdit
import FabricConfig.Proofs.Document.Commuting
import FabricConfig.Proofs.Generation.Failures
import FabricConfig.Proofs.Generation.Exactness
import FabricConfig.Proofs.Document.Reading
import FabricConfig.Proofs.Document.Normalization
import FabricConfig.Proofs.Document.Grammar
import FabricConfig.Proofs.Generation.ReadBack
import FabricConfig.Proofs.Generation.Stages
import FabricConfig.Proofs.Generation.Dependence
import FabricConfig.Proofs.Generation.Permutation
import FabricConfig.Proofs.CommandLine.Files
import FabricConfig.Proofs.CommandLine.Findings
import FabricConfig.Proofs.CommandLine.Stages
import FabricConfig.Proofs.CommandLine.Outcome
import FabricConfig.Proofs.Binary64
import FabricConfig.Proofs.Document.Json
import FabricConfig.Proofs.Diagnostic.Json
import FabricConfig.Proofs.Generation.Account
import FabricConfig.Proofs.Generation.WireName
import FabricConfig.Proofs.Packing
import FabricConfig.Proofs.Generation.Literal
import FabricConfig.Proofs.Generation.Slice
import FabricConfig.Proofs.Generation.SiteName
import FabricConfig.Proofs.Generation.ArcCount
import FabricConfig.Proofs.Generation.ArcName
import FabricConfig.Proofs.Device.Growth
import FabricConfig.Proofs.Document.Canonical
import FabricConfig.Proofs.Document.Layout
import FabricConfig.Proofs.Generation.Pad
import FabricConfig.Proofs.Project.Job
import FabricConfig.Proofs.Diagnostic.Stream
import FabricConfig.Proofs.Json.Extent
import FabricConfig.Proofs.Device.VariantName
import FabricConfig.Proofs.Device.Enumeration
