import QueryLint.Analysis.Analyzer
import QueryLint.Checks.Registry
import QueryLint.CommandLine.Run
import QueryLint.Grammar.Reply
import QueryLint.Main
import QueryLint.Pattern.Search
import QueryLint.Query.Walk
import QueryLint.Report.Layout
import QueryLint.Proofs.Pattern.Opening
import QueryLint.Proofs.Sql.Stretch
import QueryLint.Proofs.Finding.Distinct
import QueryLint.Proofs.Pattern.Escape
import QueryLint.Proofs.Finding.Occurrence
import QueryLint.Proofs.Finding.Placement
import QueryLint.Proofs.Analysis.Findings
import QueryLint.Proofs.Grammar.OwnBlock
import QueryLint.Proofs.Analysis.Attempts
import QueryLint.Proofs.Query.Reached
import QueryLint.Proofs.Finding.Agreement
import QueryLint.Proofs.Analysis.Spelling
import QueryLint.Proofs.Sql.Group
import QueryLint.Proofs.Query.Preorder
import QueryLint.Proofs.Query.Pruned
import QueryLint.Proofs.Grammar.Limit
import QueryLint.Proofs.Report.Reader
import QueryLint.Proofs.Report.RoundTrip
import QueryLint.Proofs.Report.Contents
import QueryLint.Proofs.Pattern.Taken
import QueryLint.Proofs.Text.Variant
import QueryLint.Proofs.Sql.Call
import QueryLint.Proofs.Text.Cut
import QueryLint.Proofs.Sql.Parted
import QueryLint.Proofs.Sql.Rewriting
import QueryLint.Proofs.Sql.Balance
import QueryLint.Proofs.Sql.Mask
import QueryLint.Proofs.Sql.Tilt
import QueryLint.Proofs.Sql.Excess
import QueryLint.Proofs.Sql.PlainForm
import QueryLint.Proofs.Pattern.Scan
import QueryLint.Proofs.Pattern.Preferred
import QueryLint.Proofs.Sql.Cast
import QueryLint.Proofs.Sql.Selection
import QueryLint.Proofs.Sql.Clause
import QueryLint.Proofs.Sql.Identifier
import QueryLint.Proofs.Sql.Passage
import QueryLint.Proofs.Sql.Condition
import QueryLint.Proofs.Sql.NameChain
import QueryLint.Proofs.Sql.TableName
import QueryLint.Proofs.Sql.BlockHead
import QueryLint.Proofs.Sql.NamedQuery
import QueryLint.Proofs.Checks.BareJoin
import QueryLint.Proofs.Checks.FirstHit
import QueryLint.Proofs.Checks.Nesting
import QueryLint.Proofs.Checks.JoinCondition
import QueryLint.Proofs.Sql.TableWord
import QueryLint.Proofs.Sql.DistinctFrom
import QueryLint.Proofs.Sql.PlainName
import QueryLint.Proofs.Sql.Equation
import QueryLint.Proofs.Checks.Correlation
import QueryLint.Proofs.Sql.BodyOpening
import QueryLint.Proofs.Checks.NamedQueryCount
import QueryLint.Proofs.Pattern.Layout
import QueryLint.Proofs.Sql.Layout
import QueryLint.Proofs.Checks.OrChain
import QueryLint.Proofs.Sql.CaseWord
import QueryLint.Proofs.Checks.CaseBranches
import QueryLint.Proofs.Sql.Literal
import QueryLint.Proofs.Checks.InList
import QueryLint.Proofs.Pattern.Separated
import QueryLint.Proofs.Checks.Counting
import QueryLint.Proofs.Pattern.Blankless
import QueryLint.Proofs.Sql.TableLayout
import QueryLint.Proofs.Checks.DerivedTable
import QueryLint.Proofs.Checks.References
import QueryLint.Proofs.Sql.WordPair
import QueryLint.Proofs.Sql.TopLevel
import QueryLint.Proofs.Checks.BlockOrder
import QueryLint.Proofs.Sql.Offset
import QueryLint.Proofs.Checks.LargeOffset
import QueryLint.Proofs.Analysis.LargeOffset
import QueryLint.Proofs.Grammar.Rejection
import QueryLint.Proofs.Grammar.Levels
import QueryLint.Proofs.Report.Console
import QueryLint.Proofs.Sql.Splitting
import QueryLint.Proofs.Text.Line
