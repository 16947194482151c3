import RpcBindings.Main
import RpcBindings.Proofs.Association
import RpcBindings.Proofs.Json.Grammar
import RpcBindings.Proofs.Document.Grammar
import RpcBindings.Proofs.Document.Decoding
import RpcBindings.Proofs.Document.Conformance
import RpcBindings.Proofs.Code.Lexical
import RpcBindings.Proofs.Binding.Literal
import RpcBindings.Proofs.Name.Plain
import RpcBindings.Proofs.Code.Layout
import RpcBindings.Proofs.Binding.Injection
import RpcBindings.Proofs.Name.RoundTrip
import RpcBindings.Proofs.Binding.Collision
import RpcBindings.Proofs.Generation.Delivery
import RpcBindings.Proofs.Binding.ModuleNames
import RpcBindings.Proofs.Binding.Composition
import RpcBindings.Proofs.Document.Equivalence
import RpcBindings.Proofs.Document.Indifference
import RpcBindings.Proofs.Name.Agreement
import RpcBindings.Proofs.File.Walk
import RpcBindings.Proofs.File.Changes
import RpcBindings.Proofs.Sink.Atomicity
import RpcBindings.Proofs.Generation.Rejection
import RpcBindings.Proofs.Generation.Terminals
import RpcBindings.Proofs.File.Lookups
import RpcBindings.Proofs.Generation.Selection
import RpcBindings.Proofs.Text.Tables
import RpcBindings.Proofs.Name.TypeGrammar
import RpcBindings.Proofs.Name.Seams
import RpcBindings.Proofs.Document.Places
import RpcBindings.Proofs.Service.Leaves
import RpcBindings.Proofs.Binding.TypeText
import RpcBindings.Proofs.Document.Warnings
import RpcBindings.Proofs.Binding.Positions
import RpcBindings.Proofs.Name.Taken
import RpcBindings.Proofs.Schema.Duplicates
import RpcBindings.Proofs.Binding.MethodNames
import RpcBindings.Proofs.Schema.External
import RpcBindings.Proofs.Name.Keywords
import RpcBindings.Proofs.Binding.Identifiers
import RpcBindings.Proofs.Path.Output
import RpcBindings.Proofs.Sink.Containment
import RpcBindings.Proofs.Glob.Reach
import RpcBindings.Proofs.Path.Resolution
import RpcBindings.Proofs.Generation.Stops
import RpcBindings.Proofs.Generation.PatternFaults
import RpcBindings.Proofs.Settings.Options
import RpcBindings.Proofs.Glob.Grammar
import RpcBindings.Proofs.Name.Kept
import RpcBindings.Proofs.Settings.RustPath
import RpcBindings.Proofs.Sink.Memory
import RpcBindings.Proofs.Settings.Verdict
import RpcBindings.Proofs.Generation.Stages
import RpcBindings.Proofs.Code.Printing
