import SeriesSql.Command.Run
import SeriesSql.Main
import SeriesSql.Proofs.Compile.Derivation
import SeriesSql.Proofs.Compile.Params
import SeriesSql.Proofs.Name
import SeriesSql.Proofs.Statement.Bindings
import SeriesSql.Proofs.Compile.Spacing
import SeriesSql.Proofs.Statement.WellFormed
import SeriesSql.Proofs.Compile.Text
import SeriesSql.Proofs.Statement.Skeleton
import SeriesSql.Proofs.Sql.Reading
import SeriesSql.Proofs.Statement.Inlining
import SeriesSql.Proofs.Compile.OneLine
import SeriesSql.Proofs.Compile.Shapes
import SeriesSql.Proofs.Sql.Composition
import SeriesSql.Proofs.Command.Output
import SeriesSql.Proofs.Labels.Evaluation
import SeriesSql.Proofs.Labels.Reader
import SeriesSql.Proofs.Labels.Encoding
import SeriesSql.Proofs.Labels.Tables
import SeriesSql.Proofs.Labels.Grouping
import SeriesSql.Proofs.Compile.Agreement
import SeriesSql.Proofs.Statement.Lexical
import SeriesSql.Proofs.Statement.PatternMode
import SeriesSql.Proofs.Sql.Embedding
import SeriesSql.Proofs.Statement.Operands
import SeriesSql.Proofs.Labels.Query
import SeriesSql.Proofs.Labels.Matching
import SeriesSql.Proofs.Compile.SameCode
import SeriesSql.Proofs.Statement.Independence
import SeriesSql.Proofs.Labels.Assignment
import SeriesSql.Proofs.Labels.Removal
import SeriesSql.Proofs.Stages.Statement
import SeriesSql.Proofs.Stages.Cutting
import SeriesSql.Proofs.Stages.Reading
import SeriesSql.Proofs.Stages.Rows
import SeriesSql.Proofs.Stages.Selection
import SeriesSql.Proofs.Stages.Copying
import SeriesSql.Proofs.Regex.Matching
import SeriesSql.Proofs.Regex.TokenReading
import SeriesSql.Proofs.Regex.Anchoring
import SeriesSql.Proofs.Labels.FullMatch
import SeriesSql.Proofs.Window
import SeriesSql.Proofs.Query.Selection
import SeriesSql.Proofs.Query.Support
import SeriesSql.Proofs.Sql.Filling
import SeriesSql.Proofs.Duration.RoundTrip
import SeriesSql.Proofs.Statement.SelectorIdentity
import SeriesSql.Proofs.Statement.Faults
import SeriesSql.Proofs.Compile.JoinText
import SeriesSql.Proofs.Statement.Literals
import SeriesSql.Proofs.Query.Diagnostics
import SeriesSql.Proofs.Statement.Metrics
import SeriesSql.Proofs.Text.Lines
