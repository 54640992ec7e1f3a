import Linkage.Archive.Build
import Linkage.ClassFile.Source
import Linkage.Json.Document
import Linkage.Main
import Linkage.Settings.LogFilter
import Linkage.Proofs.Reachability
import Linkage.Data.Outcome
import Linkage.Proofs.Inheritance
import Linkage.Proofs.ConflictReport
import Linkage.Proofs.Encoding
import Linkage.Proofs.Layout
import Linkage.Proofs.Interning
import Linkage.Proofs.Assembling
import Linkage.Proofs.LineTable
import Linkage.Proofs.CodeLayout
import Linkage.Proofs.Building
import Linkage.Proofs.SourceDeclaration
import Linkage.Proofs.DeclaredSites
import Linkage.Proofs.RoundTrip
import Linkage.Proofs.Outline
import Linkage.Proofs.DecodedSites
import Linkage.Proofs.Simulation
import Linkage.Proofs.Transparency
import Linkage.Proofs.NoLateFailure
import Linkage.Proofs.OutputFilter
import Linkage.Proofs.Sessions
import Linkage.Proofs.CompleteCheck
import Linkage.Proofs.MissingParent
import Linkage.Proofs.Layering
import Linkage.Proofs.Provenance
import Linkage.Proofs.CallingClass
import Linkage.Proofs.Projects
import Linkage.Proofs.CanonicalPaths
import Linkage.Proofs.Releases
import Linkage.Proofs.Placement
import Linkage.Proofs.PlainSearch
import Linkage.Proofs.DescriptorGrammar
import Linkage.Proofs.InstructionLayout
import Linkage.Proofs.ConflictKinds
import Linkage.Proofs.Delimiting
import Linkage.Proofs.KeyedMembers
import Linkage.Proofs.Surrogates
import Linkage.Proofs.AddressedDecoding
import Linkage.Proofs.FeatureRelease
import Linkage.Proofs.TextReport
import Linkage.Proofs.Traversal
import Linkage.Proofs.Ascent
import Linkage.Proofs.ByteGroups
import Linkage.Proofs.PoolRequests
