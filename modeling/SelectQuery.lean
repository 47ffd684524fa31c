import SelectQuery.Main
import SelectQuery.Specification.Builder
import SelectQuery.Proofs.Binding.Tokenisation
import SelectQuery.Proofs.Text.Basic
import SelectQuery.Proofs.Terminal.Columns
import SelectQuery.Proofs.Binding.Rewriting
import SelectQuery.Proofs.Parameters.Merging
import SelectQuery.Proofs.Specification.Equality
import SelectQuery.Proofs.Query.Emission
import SelectQuery.Proofs.Query.Drafting
import SelectQuery.Proofs.Query.Success
import SelectQuery.Proofs.Binding.Pieces
import SelectQuery.Proofs.Query.Capture
import SelectQuery.Proofs.Binding.Numbering
import SelectQuery.Proofs.Binding.Composition
import SelectQuery.Proofs.Query.Text
import SelectQuery.Proofs.Query.Unions
import SelectQuery.Proofs.Query.Tables
import SelectQuery.Proofs.Query.Keys
import SelectQuery.Proofs.Query.Layout
import SelectQuery.Proofs.Query.Paging
import SelectQuery.Proofs.Dialect.Quoting
import SelectQuery.Proofs.Binding.Quotation
import SelectQuery.Proofs.Query.Reduction
import SelectQuery.Proofs.Specification.Building
import SelectQuery.Proofs.Json.Scanning
import SelectQuery.Proofs.Json.Reading
import SelectQuery.Proofs.Value.Storage
import SelectQuery.Proofs.Specification.Storage
import SelectQuery.Proofs.Parameters.Names
import SelectQuery.Proofs.Parameters.Reading
import SelectQuery.Proofs.Parameters.Conversion
import SelectQuery.Proofs.Specification.Loading
import SelectQuery.Proofs.Binding.Copying
import SelectQuery.Proofs.Binding.Lexemes
import SelectQuery.Proofs.Parameters.Alike
import SelectQuery.Proofs.Query.Congruence
import SelectQuery.Proofs.Query.Dropping
import SelectQuery.Proofs.Query.Rearranging
import SelectQuery.Proofs.Query.Doubling
import SelectQuery.Proofs.Binding.Renaming
import SelectQuery.Proofs.Binding.Rebinding
import SelectQuery.Proofs.Database.Counting
import SelectQuery.Proofs.Sql.Plain
import SelectQuery.Proofs.Parameters.Conflicts
import SelectQuery.Proofs.Parameters.Writing
import SelectQuery.Proofs.Specification.Accumulation
import SelectQuery.Proofs.Specification.Rules
import SelectQuery.Proofs.Query.Validated
