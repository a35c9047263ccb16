import Worksheet.Session
import Worksheet.Proofs.Except
import Worksheet.Proofs.Text.Characters
import Worksheet.Proofs.Text.Digits
import Worksheet.Proofs.Text.Uppercase
import Worksheet.Proofs.Address.Labels
import Worksheet.Proofs.Address.Columns
import Worksheet.Proofs.Address.Names
import Worksheet.Proofs.Number.Plain
import Worksheet.Proofs.Number.Reading
import Worksheet.Proofs.Dependency.Reach
import Worksheet.Proofs.Dependency.Order
import Worksheet.Proofs.Dependency.DepthFirst
import Worksheet.Proofs.Dependency.Inverse
import Worksheet.Proofs.Dependency.Cycles
import Worksheet.Proofs.Dependency.Readers
import Worksheet.Proofs.Formula.Grammar
import Worksheet.Proofs.Formula.Tokens
import Worksheet.Proofs.Formula.Lexemes
import Worksheet.Proofs.Formula.ReversePolish
import Worksheet.Proofs.Formula.Evaluation
import Worksheet.Proofs.Formula.Writing
import Worksheet.Proofs.Formula.Failures
import Worksheet.Proofs.Formula.References
import Worksheet.Proofs.Formula.Adjacency
import Worksheet.Proofs.Formula.PostOrder
import Worksheet.Proofs.Formula.Parentheses
import Worksheet.Proofs.Recalculation.Current
import Worksheet.Proofs.Recalculation.Result
import Worksheet.Proofs.Recalculation.Legible
import Worksheet.Proofs.Recalculation.Locality
import Worksheet.Proofs.Recalculation.Errors
import Worksheet.Proofs.Recalculation.Circular
import Worksheet.Proofs.Recalculation.Report
import Worksheet.Proofs.Recalculation.Stability
import Worksheet.Proofs.History.Basic
import Worksheet.Proofs.History.Log
import Worksheet.Proofs.Session.Runs
import Worksheet.Proofs.Session.Consistency
import Worksheet.Proofs.Session.Edits
import Worksheet.Proofs.Session.Outcomes
import Worksheet.Proofs.Session.Shape
import Worksheet.Proofs.Session.Snapshots
import Worksheet.Proofs.Text.Uppercase
