import TermSearch.Demo
import TermSearch.Logging.Run
import TermSearch.Proofs.Accessor
import TermSearch.Proofs.Comparison.NormalForm
import TermSearch.Proofs.Ranking.Agreement
import TermSearch.Proofs.Search.Filtering
import TermSearch.Session.Step
import TermSearch.Text.WordPattern
import TermSearch.Proofs.Comparison.Spelling
import TermSearch.Proofs.Search.Observation
import TermSearch.Proofs.Search.EachTerm
import TermSearch.Proofs.Unicode.Boundary
import TermSearch.Proofs.Unicode.WordEdges
import TermSearch.Proofs.Comparison.CaseFolding
import TermSearch.Proofs.Search.Reads
import TermSearch.Proofs.Ranking.Reads
import TermSearch.Proofs.Search.Flow
import TermSearch.Proofs.Search.Nesting
import TermSearch.Proofs.Search.Rearrangement
import TermSearch.Proofs.Ranking.Rearrangement
import TermSearch.Proofs.Session.Lineage
import TermSearch.Proofs.Text.Pattern
import TermSearch.Proofs.Text.Matches
import TermSearch.Proofs.Search.Beginning
import TermSearch.Proofs.Logging.Format
import TermSearch.Proofs.Logging.Run
import TermSearch.Proofs.Request
import TermSearch.Proofs.Ranking.Order
import TermSearch.Proofs.Text.Runs
import TermSearch.Proofs.Comparison.Strength
import TermSearch.Proofs.Ranking.Narrowing
import TermSearch.Proofs.Unicode.MarkOrder
import TermSearch.Proofs.Unicode.Hangul
import TermSearch.Proofs.Unicode.Recomposition
import TermSearch.Proofs.Unicode.CaseStability
import TermSearch.Proofs.Comparison.Idempotence
import TermSearch.Proofs.Accessor.Path
import TermSearch.Proofs.Accessor.Wrapping
import TermSearch.Proofs.Search.Wrapping
import TermSearch.Proofs.Text.Blank
import TermSearch.Proofs.Insertion
import TermSearch.Proofs.Search.BlankTerms
import TermSearch.Proofs.Request.Validation
import TermSearch.Proofs.Value.Fields
import TermSearch.Proofs.Value.Rounding
import TermSearch.Proofs.Logging.Context
import TermSearch.Proofs.Predicate.PairByPair
import TermSearch.Proofs.Search.Records
import TermSearch.Proofs.Session.Journal
import TermSearch.Proofs.Session.Records
import TermSearch.Proofs.Demo.Printing
import TermSearch.Proofs.Demo.Tour
