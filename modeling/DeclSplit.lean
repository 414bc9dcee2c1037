import DeclSplit.Ir.Workspace
import DeclSplit.Json.Parse
import DeclSplit.Main
import DeclSplit.Proofs.Ir.History
import DeclSplit.Proofs.Process
import DeclSplit.Proofs.Wire.Levels
import DeclSplit.Proofs.Pipeline.Renaming
import DeclSplit.Proofs.Ir.Dependencies.Chains
import DeclSplit.Proofs.Ir.Dependencies.Order
import DeclSplit.Proofs.CommandLine.SegmentTable
import DeclSplit.Proofs.Wire.Append
import DeclSplit.Proofs.Wire.Concatenation
import DeclSplit.Proofs.Wire.Unknown
import DeclSplit.Proofs.Wire.Injectivity
import DeclSplit.Proofs.Ir.NormalForm
import DeclSplit.Proofs.Cursor
import DeclSplit.Proofs.Cursor.Kinds
import DeclSplit.Proofs.Tree.Walks
import DeclSplit.Proofs.Config
import DeclSplit.Proofs.Output.Segments
import DeclSplit.Proofs.Yaml
import DeclSplit.Proofs.Yaml.Scalar
import DeclSplit.Proofs.Text.Reading
import DeclSplit.Proofs.Config.Load
