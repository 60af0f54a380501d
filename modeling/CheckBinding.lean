import CheckBinding.Main
import CheckBinding.Proofs.AtMostOnce
import CheckBinding.Proofs.Enabling
import CheckBinding.Proofs.Persistence
import CheckBinding.Proofs.Selection
import CheckBinding.Proofs.Courses
import CheckBinding.Proofs.Transcripts
import CheckBinding.Proofs.Resolution
import CheckBinding.Proofs.FailedOperations
import CheckBinding.Proofs.ActiveBundles
import CheckBinding.Proofs.ConcurrentEdits
import CheckBinding.Proofs.Searches
import CheckBinding.Proofs.SharedTargets
import CheckBinding.Proofs.Bindings
import CheckBinding.Proofs.Freshness
import CheckBinding.Proofs.Management
import CheckBinding.Proofs.Json.Bundles
import CheckBinding.Proofs.Providers
import CheckBinding.Proofs.ProbeTraces
import CheckBinding.Proofs.HeldCopies
import CheckBinding.Proofs.Interleavings
import CheckBinding.Proofs.Overrides
import CheckBinding.Proofs.InterruptedSaves
import CheckBinding.Proofs.CidGrammar
import CheckBinding.Proofs.RosterAnswers
import CheckBinding.Proofs.MetricDiffs
import CheckBinding.Proofs.MemoryHistories
import CheckBinding.Proofs.FilterLists
import CheckBinding.Proofs.NormalForms
import CheckBinding.Proofs.Creations
import CheckBinding.Proofs.ProbeAttempts
import CheckBinding.Proofs.RosterMerges
