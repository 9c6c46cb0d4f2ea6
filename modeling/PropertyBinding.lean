import PropertyBinding.Declaration
import PropertyBinding.Erased
import PropertyBinding.Journal
import PropertyBinding.JsonText
import PropertyBinding.Resolver.Table
import PropertyBinding.Proofs.Transparency
import PropertyBinding.Proofs.FailedInstall
import PropertyBinding.Proofs.Uninterrupted
import PropertyBinding.Proofs.RoundTrip
import PropertyBinding.Proofs.ArtifactText
import PropertyBinding.Proofs.Acceptance
import PropertyBinding.Proofs.MappedMembers
import PropertyBinding.Proofs.Precompilation
import PropertyBinding.Proofs.Selection
import PropertyBinding.Proofs.Consistency
import PropertyBinding.Proofs.Independence
import PropertyBinding.Proofs.Containment
import PropertyBinding.Proofs.OpaqueData
import PropertyBinding.Proofs.TypedAccess
import PropertyBinding.Proofs.MapStores
import PropertyBinding.Proofs.TextRoundTrip
import PropertyBinding.Proofs.AccessorNames
import PropertyBinding.Proofs.ValueTrees
import PropertyBinding.Proofs.Extraction
import PropertyBinding.Proofs.Filling
import PropertyBinding.Proofs.NewInstances
import PropertyBinding.Proofs.ScalarReads
import PropertyBinding.Proofs.LoaderHistory
