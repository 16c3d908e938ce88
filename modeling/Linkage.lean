import Linkage.Main
import Linkage.Capability
import Linkage.Embedding
import Linkage.Proofs.Extension
import Linkage.Proofs.Definition
import Linkage.Proofs.Resolution
import Linkage.Proofs.ImportViews
import Linkage.Proofs.Registration
import Linkage.Proofs.Run
import Linkage.Proofs.Ownership
import Linkage.Proofs.Limits
import Linkage.Proofs.Stability
import Linkage.Proofs.StandIns
import Linkage.Proofs.Stages
import Linkage.Proofs.Alongside
import Linkage.Proofs.Blindness
import Linkage.Proofs.Sessions
import Linkage.Proofs.Batches
import Linkage.Proofs.LongestPrefix
import Linkage.Proofs.Collision
import Linkage.Namespace.Cursor
import Linkage.Proofs.ExitStatus
import Linkage.Proofs.FiniteMap
import Linkage.Proofs.TypeErrors
import Linkage.Proofs.EntryOrder
import Linkage.Proofs.LikeValues
import Linkage.Proofs.StandInCalls
import Linkage.Proofs.Aliases
import Linkage.Proofs.DistinctKeys
import Linkage.Proofs.RecordReading
import Linkage.Proofs.ManifestTexts
import Linkage.Proofs.ManifestEncoding
import Linkage.Proofs.ManifestPaths
import Linkage.Proofs.Printing
import Linkage.Proofs.Invocation
import Linkage.Proofs.Quotation
import Linkage.Proofs.IntegerArguments
import Linkage.Proofs.Capabilities
import Linkage.Proofs.KeyOrder
import Linkage.Proofs.CanonicalText
import Linkage.Proofs.MessageKeys
import Linkage.Proofs.PreloadArguments
