import OwnerBinding.Manifest
import OwnerBinding.Storage
import OwnerBinding.Live.Session
import OwnerBinding.Proofs.Association.Obstruction
import OwnerBinding.Proofs.Factory.Reference
import OwnerBinding.Proofs.Generation
import OwnerBinding.Proofs.Dispatch
import OwnerBinding.Proofs.Text.Identifier
import OwnerBinding.Proofs.Factory.Layout
import OwnerBinding.Proofs.Factory.Reader
import OwnerBinding.Proofs.Factory.MethodReading
import OwnerBinding.Proofs.Factory.RoundTrip
import OwnerBinding.Proofs.Live.Closure
import OwnerBinding.Proofs.Live.Introspection
import OwnerBinding.Proofs.Association.Fold
import OwnerBinding.Proofs.Factory.Listing
import OwnerBinding.Proofs.Factory.Closed
import OwnerBinding.Proofs.Live.Shadowing
import OwnerBinding.Proofs.Manifest.Schema
import OwnerBinding.Proofs.Manifest.Reading
import OwnerBinding.Proofs.Manifest.Document
import OwnerBinding.Manifest.Stored
import OwnerBinding.Proofs.Manifest.Faults
import OwnerBinding.Proofs.Association.Trace
import OwnerBinding.Proofs.Diagnostics
import OwnerBinding.Proofs.Locality
import OwnerBinding.Proofs.Association.Overrides
import OwnerBinding.Proofs.Live.Worklist
import OwnerBinding.Proofs.Settings
import OwnerBinding.Proofs.Text.Package
import OwnerBinding.Proofs.Placement
import OwnerBinding.Proofs.Factory.Contract
import OwnerBinding.Proofs.Association.Reordering
import OwnerBinding.Proofs.Factory.Reordering
import OwnerBinding.Proofs.Manifest.Report
import OwnerBinding.Proofs.Settings.Sources
import OwnerBinding.Proofs.Live.Mentions
import OwnerBinding.Proofs.Live.Enumeration
import OwnerBinding.Proofs.Live.Modules
import OwnerBinding.Proofs.Storage.Frame
import OwnerBinding.Proofs.Storage.Writing
import OwnerBinding.Proofs.Declaration.Lookup
import OwnerBinding.Proofs.Resolution.Position
import OwnerBinding.Proofs.Factory.Aliases
import OwnerBinding.Proofs.Live.Applications
import OwnerBinding.Proofs.Live.Decorators
