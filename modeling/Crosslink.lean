import Crosslink.ConfigFile
import Crosslink.Report
import Crosslink.Resolver
import Crosslink.Snapshot
import Crosslink.Proofs.Promotion
import Crosslink.Proofs.Reconciliation
import Crosslink.Proofs.Reachability
import Crosslink.Proofs.Calls
import Crosslink.Proofs.CompileOrder
import Crosslink.Proofs.Retention
import Crosslink.Proofs.Outline
import Crosslink.Proofs.PathNormal
import Crosslink.Proofs.SlugWords
import Crosslink.Proofs.TitleOrder
import Crosslink.Proofs.RelativeLinks
import Crosslink.Proofs.SoundEntries
import Crosslink.Proofs.Confinement
import Crosslink.Proofs.EarlyPromotion
import Crosslink.Proofs.TwoCopies
import Crosslink.Proofs.RootedNames
import Crosslink.Proofs.WrittenJson
import Crosslink.Proofs.Snapshots
import Crosslink.Proofs.LinkNames
import Crosslink.Proofs.LinkHistory
import Crosslink.Proofs.SlugGrammar
import Crosslink.Proofs.BrokenReferences
import Crosslink.Proofs.FragmentKeys
import Crosslink.Proofs.RelativeForm
import Crosslink.Proofs.ResolutionEffect
import Crosslink.Proofs.WholePass
import Crosslink.Proofs.DependencyOrder
import Crosslink.Proofs.Spellings
import Crosslink.Proofs.LabelReferences
import Crosslink.Proofs.RewrittenLinks
import Crosslink.Proofs.Underlines
import Crosslink.Proofs.SlugRuns
import Crosslink.Proofs.Refusals
import Crosslink.Proofs.GroupedReports
import Crosslink.Proofs.BrokenLinkLedger
import Crosslink.Proofs.PathCalculus
import Crosslink.Proofs.LoadedEntries
