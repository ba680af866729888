import SearchFilters.Field.Format
import SearchFilters.Main
import SearchFilters.Proofs.Cli.History
import SearchFilters.Proofs.Config.Faults
import SearchFilters.Proofs.Config.RoundTrip
import SearchFilters.Proofs.Filter.Assignment
import SearchFilters.Proofs.Filter.Editing
import SearchFilters.Proofs.Filter.EnumGroup
import SearchFilters.Proofs.Filter.FieldName
import SearchFilters.Proofs.Filter.Integers
import SearchFilters.Proofs.Filter.Joining
import SearchFilters.Proofs.Filter.Nesting
import SearchFilters.Proofs.Filter.TermText
import SearchFilters.Proofs.Filter.Verdict
import SearchFilters.Proofs.Query.Faults
import SearchFilters.Proofs.Query.Layout
import SearchFilters.Proofs.Query.Rereading
import SearchFilters.Proofs.Query.Rewritten
import SearchFilters.Proofs.Query.Shape
