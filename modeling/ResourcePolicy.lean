import ResourcePolicy.AccountId
import ResourcePolicy.Arn
import ResourcePolicy.AwsPrincipal
import ResourcePolicy.Condition
import ResourcePolicy.Condition.Narrowing
import ResourcePolicy.Decimal
import ResourcePolicy.Evaluation
import ResourcePolicy.Evaluator
import ResourcePolicy.Grantees
import ResourcePolicy.Json.Basic
import ResourcePolicy.Json.Decode
import ResourcePolicy.Json.Escape
import ResourcePolicy.Json.Numeral
import ResourcePolicy.Json.Reader
import ResourcePolicy.Json.Token
import ResourcePolicy.Ordered.Insertion
import ResourcePolicy.Ordered.KeyMap
import ResourcePolicy.Ordered.StringSet
import ResourcePolicy.Policy
import ResourcePolicy.PolicyError
import ResourcePolicy.Principal
import ResourcePolicy.Report
import ResourcePolicy.ShapeError
import ResourcePolicy.Statement
import ResourcePolicy.Text.Quoted
import ResourcePolicy.Text.Unprintable
import ResourcePolicy.Values
import ResourcePolicy.Proofs.Traversal
import ResourcePolicy.Proofs.KeyMaps
import ResourcePolicy.Proofs.ArnText
import ResourcePolicy.Proofs.Classification
import ResourcePolicy.Proofs.ArnReadings
import ResourcePolicy.Proofs.ConditionEntries
import ResourcePolicy.Proofs.Narrowing
import ResourcePolicy.Proofs.StatementGrants
import ResourcePolicy.Proofs.PolicyRow
import ResourcePolicy.Proofs.PublicAccess
import ResourcePolicy.Proofs.ReportedNames
import ResourcePolicy.Proofs.Failures
import ResourcePolicy.Proofs.Decoding
import ResourcePolicy.Proofs.CanonicalForm
import ResourcePolicy.Proofs.CanonicalEvaluation
import ResourcePolicy.Proofs.Composition
import ResourcePolicy.Proofs.DocumentGrammar
import ResourcePolicy.Proofs.Respelling
import ResourcePolicy.Proofs.RowComparison
import ResourcePolicy.Proofs.RowCoherence
import ResourcePolicy.Proofs.Rearrangement
import ResourcePolicy.Proofs.ModeComparison
import ResourcePolicy.Proofs.OwnerChange
import ResourcePolicy.Proofs.RelevantParts
import ResourcePolicy.Proofs.AddedEntry
import ResourcePolicy.Proofs.ConditionBuilding
import ResourcePolicy.Proofs.ConditionEdits
import ResourcePolicy.Proofs.PrincipalSplit
import ResourcePolicy.Proofs.StatementIds
import ResourcePolicy.Proofs.RecordReading
import ResourcePolicy.Proofs.PositionalForm
import ResourcePolicy.Proofs.Accumulation
import ResourcePolicy.Proofs.Reporting
import ResourcePolicy.Proofs.FirstFault
import ResourcePolicy.Proofs.QuotedText
import ResourcePolicy.Proofs.ErrorTexts
