import BriskModules.Main
import BriskModules.Syntax.Encoding
import BriskModules.Proofs.Graph.Steps
import BriskModules.Proofs.Graph.Growth
import BriskModules.Proofs.File.Name
import BriskModules.Proofs.Import.Path
import BriskModules.Proofs.Module.Files
import BriskModules.Proofs.Graph.Nesting
import BriskModules.Proofs.Graph.Completion
import BriskModules.Proofs.Graph.Requests
import BriskModules.Proofs.Graph.Chain
import BriskModules.Proofs.Graph.Acyclic
import BriskModules.Proofs.Graph.Compilable
import BriskModules.Proofs.Graph.Agreement
import BriskModules.Proofs.Graph.Record
import BriskModules.Proofs.Export.Mention
import BriskModules.Proofs.Export.Errors
import BriskModules.Proofs.Export.Effect
import BriskModules.Proofs.Export.Scope
import BriskModules.Proofs.Module.Derivation
import BriskModules.Proofs.Import.Answers
import BriskModules.Proofs.Export.Leaks
import BriskModules.Proofs.Export.Interference
import BriskModules.Proofs.Export.Calls
import BriskModules.Proofs.Export.Singletons
import BriskModules.Proofs.Export.Requirements
import BriskModules.Proofs.Export.OnDemand
import BriskModules.Proofs.Module.Places
import BriskModules.Proofs.Graph.Depth
import BriskModules.Proofs.Graph.Results
import BriskModules.Proofs.Graph.Cycles
import BriskModules.Proofs.Graph.Causes
import BriskModules.Proofs.Graph.Closure
import BriskModules.Proofs.Import.Attribution
import BriskModules.Proofs.Import.Grammar
import BriskModules.Proofs.Export.Reordering
import BriskModules.Proofs.Graph.Checking
import BriskModules.Proofs.Module.Text
import BriskModules.Proofs.Graph.Memo
import BriskModules.Proofs.Graph.Provenance
import BriskModules.Proofs.Json.Abridged
import BriskModules.Proofs.Syntax.Expressions
import BriskModules.Proofs.Syntax.Units
import BriskModules.Proofs.Import.Walk
import BriskModules.Proofs.Module.GeneratedNames
import BriskModules.Proofs.Module.Spelling
import BriskModules.Proofs.Module.Naming
import BriskModules.Proofs.Graph.Naming
import BriskModules.Proofs.Graph.Origin
import BriskModules.Proofs.Import.Views
import BriskModules.Proofs.Import.Independence
import BriskModules.Proofs.Module.FileNames
import BriskModules.Proofs.Module.SearchPath
import BriskModules.Proofs.Package.Roots
import BriskModules.Proofs.Diagnostic.Snippet
import BriskModules.Proofs.Import.Faults
import BriskModules.Proofs.Export.History
import BriskModules.Proofs.Syntax.Dotted
import BriskModules.Proofs.Graph.Making
