import JavaSource.Config.Document
import JavaSource.Config.Schema
import JavaSource.Descriptor
import JavaSource.ClassDecl.Mutation
import JavaSource.Emission.FileTree
import JavaSource.Json.ConfigForm
import JavaSource.Json.TypeForm
import JavaSource.Logging.Settings
import JavaSource.Proofs.ClassDecl.Completeness
import JavaSource.Proofs.Emission.Spelling
import JavaSource.Proofs.Emission.Scope
import JavaSource.Proofs.Emission.ImplicitName
import JavaSource.Proofs.ClassDecl.Derivation
import JavaSource.ClassDecl.Procedure
import JavaSource.Proofs.ClassDecl.Check
import JavaSource.Proofs.ClassDecl.Procedure
import JavaSource.Proofs.ClassDecl.WellFormed
import JavaSource.Proofs.Emission.Agreement
import JavaSource.Proofs.Emission.InterfaceMethods
import JavaSource.Proofs.Package.NormalForm
import JavaSource.Proofs.JavaType.Normal
import JavaSource.Proofs.ClassDecl.Order
import JavaSource.Proofs.Json.RoundTrip
import JavaSource.Proofs.Emission.Separation
import JavaSource.Proofs.Emission.FileTree
import JavaSource.Proofs.Emission.Output
import JavaSource.Proofs.Emission.Hiding
import JavaSource.Proofs.Emission.UnnamedImport
import JavaSource.Proofs.Imports.Repeat
import JavaSource.Proofs.Emission.Display
import JavaSource.Proofs.Emission.Balance
import JavaSource.Proofs.Emission.Reading
import JavaSource.Proofs.Imports.Flags
import JavaSource.Proofs.Imports.Log
import JavaSource.Proofs.Emission.Capture
import JavaSource.Proofs.Package.QualifiedName
import JavaSource.Proofs.Package.Canonical
import JavaSource.Proofs.Piece.Place
import JavaSource.Proofs.Piece.Walk
import JavaSource.Proofs.Logging.Decision
import JavaSource.Proofs.Logging.Override
import JavaSource.Proofs.Toml.Number
import JavaSource.Proofs.Toml.Setting
import JavaSource.Proofs.Toml.Document
import JavaSource.Proofs.Config.Places
import JavaSource.Proofs.Config.Completion
import JavaSource.Proofs.Logging.NormalForm
import JavaSource.Proofs.Logging.Filter
