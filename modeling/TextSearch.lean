import TextSearch.Main
import TextSearch.Proofs.Engine.Rebuilding
import TextSearch.Proofs.Query.Associativity
import TextSearch.Proofs.Query.Balance
import TextSearch.Proofs.Query.Faults
import TextSearch.Proofs.Query.Grouping
import TextSearch.Proofs.Query.Height
import TextSearch.Proofs.Query.Leaves
import TextSearch.Proofs.Query.Parentheses
import TextSearch.Proofs.Query.Rereading
import TextSearch.Proofs.Query.Watching
import TextSearch.Proofs.Query.Words
import TextSearch.Proofs.Search.Facets
import TextSearch.Proofs.Search.Fragments
import TextSearch.Proofs.Search.Highlighting
import TextSearch.Proofs.Search.Paging
import TextSearch.Proofs.Search.Satisfaction
import TextSearch.Proofs.Search.Wildcards
import TextSearch.Proofs.Index.Vocabulary
import TextSearch.Proofs.Index.Batches
import TextSearch.Proofs.Index.Numbering
import TextSearch.Proofs.Search.Finding
import TextSearch.Proofs.Service.Atomicity
import TextSearch.Proofs.Service.Overlays
import TextSearch.Proofs.Service.Responses
import TextSearch.Proofs.Wire.Documents
import TextSearch.Proofs.Search.Filtering
import TextSearch.Proofs.Search.Relevance
import TextSearch.Proofs.Index.Recount
import TextSearch.Proofs.Index.Suggestions
import TextSearch.Proofs.Index.Pairs
import TextSearch.Proofs.Index.Tags
import TextSearch.Proofs.CommandLine.Reports
import TextSearch.Proofs.CommandLine.Widths
import TextSearch.Proofs.Search.Windows
import TextSearch.Proofs.Text.Stability
import TextSearch.Proofs.Index.Counts
import TextSearch.Proofs.Search.Divisions
