import SymbolSearch.Interactive.Background
import SymbolSearch.Interactive.Key
import SymbolSearch.Interactive.Screen
import SymbolSearch.Main
import SymbolSearch.Proofs.Alignment.Columns
import SymbolSearch.Proofs.Alignment.Verbatim
import SymbolSearch.Proofs.Ranking.Steps
import SymbolSearch.Proofs.Ranking.Coherence
import SymbolSearch.Proofs.Ranking.Record
import SymbolSearch.Proofs.Ranking.Unbounded
import SymbolSearch.Proofs.Ranking.Sharing
import SymbolSearch.Proofs.Ranking.Retrying
import SymbolSearch.Proofs.Ranking.Halves
import SymbolSearch.Proofs.Ranking.Recency
import SymbolSearch.Proofs.Text.Windows
import SymbolSearch.Proofs.Emission.Lines
import SymbolSearch.Proofs.Query.BestHits
import SymbolSearch.Proofs.Query.Thresholds
import SymbolSearch.Proofs.Query.ExactNames
import SymbolSearch.Proofs.Interactive.FinderSteps
import SymbolSearch.Proofs.Interactive.Superseding
import SymbolSearch.Proofs.Interactive.Tracking
import SymbolSearch.Proofs.Interactive.Quiescence
import SymbolSearch.Proofs.Interactive.Driving
import SymbolSearch.Proofs.Interactive.Loading
import SymbolSearch.Proofs.Jsonc.Stripping
import SymbolSearch.Proofs.Json.Exports
import SymbolSearch.Proofs.Alignment.Shortfall
import SymbolSearch.Proofs.Indexing.Roots
import SymbolSearch.Proofs.Emission.Blocks
import SymbolSearch.Proofs.Emission.Numbers
import SymbolSearch.Proofs.Interactive.Debouncing
import SymbolSearch.Proofs.Query.Spelling
import SymbolSearch.Proofs.Interactive.Placeholders
import SymbolSearch.Proofs.Interactive.Selecting
import SymbolSearch.Proofs.Ranking.Responses
import SymbolSearch.Proofs.Jsonc.Plain
import SymbolSearch.Proofs.Json.Faults
import SymbolSearch.Proofs.Jsonc.Rows
import SymbolSearch.Proofs.Project.Joining
import SymbolSearch.Proofs.Project.PathOrder
import SymbolSearch.Proofs.Project.SourceFiles
import SymbolSearch.Proofs.Glob.Plain
import SymbolSearch.Proofs.Project.Directories
import SymbolSearch.Proofs.Syntax.Wrappers
import SymbolSearch.Proofs.Syntax.Collecting
import SymbolSearch.Proofs.Text.Intervals
import SymbolSearch.Proofs.Statistics.Counts
import SymbolSearch.Proofs.Listing.Grouping
