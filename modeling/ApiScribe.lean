import ApiScribe.CommandLine.Arguments
import ApiScribe.CommandLine.Options
import ApiScribe.CommandLine.Run
import ApiScribe.Distinct
import ApiScribe.Document.Add
import ApiScribe.Document.Basic
import ApiScribe.Document.Decode
import ApiScribe.Document.Edit
import ApiScribe.Document.Encode
import ApiScribe.Document.Info
import ApiScribe.Error
import ApiScribe.Files.Path
import ApiScribe.Files.Tree
import ApiScribe.Files.Write
import ApiScribe.Generation.Config
import ApiScribe.Generation.Run
import ApiScribe.Json.Basic
import ApiScribe.Json.Read
import ApiScribe.Json.Write
import ApiScribe.KeyMap
import ApiScribe.Main
import ApiScribe.Model.Basic
import ApiScribe.Model.Build
import ApiScribe.Model.Find
import ApiScribe.Model.Reach
import ApiScribe.Model.Resolve
import ApiScribe.Model.Shape
import ApiScribe.Model.TypeName
import ApiScribe.Node
import ApiScribe.Operation.Basic
import ApiScribe.Operation.Directive
import ApiScribe.Operation.Draft
import ApiScribe.Package.Scan
import ApiScribe.Package.Workspace
import ApiScribe.Pattern.Basic
import ApiScribe.Pattern.CharClass
import ApiScribe.Pattern.Property
import ApiScribe.Pattern.Read
import ApiScribe.Proofs.Files.Spelling
import ApiScribe.Proofs.Model.Closure
import ApiScribe.Proofs.Model.Context
import ApiScribe.Proofs.Model.Ending
import ApiScribe.Proofs.Model.Find
import ApiScribe.Proofs.Model.History
import ApiScribe.Proofs.Model.Related
import ApiScribe.Proofs.Model.Run
import ApiScribe.Proofs.Model.Scope
import ApiScribe.Proofs.Model.Sketch
import ApiScribe.Proofs.Package.Answer
import ApiScribe.Proofs.Package.Coherence
import ApiScribe.Proofs.Package.Directory
import ApiScribe.Proofs.Source.Unplaced
import ApiScribe.Source.GoDeclaration
import ApiScribe.Source.GoToken
import ApiScribe.Source.GoUnit
import ApiScribe.Source.Grammar
import ApiScribe.Source.Language
import ApiScribe.Source.RustGrammar
import ApiScribe.Source.RustToken
import ApiScribe.Source.RustType
import ApiScribe.Source.RustUnit
import ApiScribe.Source.StructTag
import ApiScribe.Source.Tree
import ApiScribe.Source.Unit
import ApiScribe.Source.UseTree
import ApiScribe.Text.Blank
import ApiScribe.Text.Category
import ApiScribe.Text.CategoryTable
import ApiScribe.Text.Cut
import ApiScribe.Text.Number
import ApiScribe.Text.PropertyTable
import ApiScribe.Text.ScriptTable
import ApiScribe.Text.Table
import ApiScribe.Text.Upper
import ApiScribe.Yaml.Plain
import ApiScribe.Yaml.Scalar
import ApiScribe.Yaml.Write
import ApiScribe.Document.Edit
import ApiScribe.Proofs.Document.Grouping
import ApiScribe.Proofs.Document.Listing
import ApiScribe.Proofs.Generation.Steps
import ApiScribe.Proofs.Generation.Documents
import ApiScribe.Proofs.Files.Names
import ApiScribe.Proofs.Package.Discovery
import ApiScribe.Proofs.Generation.Alike
import ApiScribe.Proofs.Generation.Policy
import ApiScribe.Proofs.Json.RoundTrip
import ApiScribe.Proofs.Document.RoundTrip
import ApiScribe.Proofs.Package.SearchOrder
import ApiScribe.Proofs.Package.Shadow
import ApiScribe.Proofs.Package.Registry
import ApiScribe.Proofs.Generation.Imports
import ApiScribe.Proofs.Operation.References
import ApiScribe.Proofs.Document.References
import ApiScribe.Proofs.Source.Words
import ApiScribe.Proofs.Model.Identity
import ApiScribe.Proofs.Model.Flattening
import ApiScribe.Proofs.Model.Shadowing
import ApiScribe.Operation.InPlace
import ApiScribe.Proofs.Operation.InPlace
import ApiScribe.Proofs.Text.Reading
import ApiScribe.Proofs.Operation.Grammar
import ApiScribe.Proofs.Operation.Lookups
import ApiScribe.Proofs.Operation.Padding
import ApiScribe.Proofs.Operation.Account
import ApiScribe.Proofs.Document.Duplicates
import ApiScribe.Proofs.Operation.Results
import ApiScribe.Proofs.Model.Structs
import ApiScribe.Proofs.Model.Reaching
import ApiScribe.Proofs.Package.Contents
import ApiScribe.Proofs.Model.Meaning
import ApiScribe.Proofs.Operation.Composed
import ApiScribe.Proofs.Operation.Groups
import ApiScribe.Proofs.Document.SubApi
import ApiScribe.Source.TagScan
import ApiScribe.Proofs.Source.StructTag
import ApiScribe.Proofs.Source.Attachment
import ApiScribe.Proofs.Source.Lines
import ApiScribe.Proofs.Source.Phrases
import ApiScribe.Proofs.Source.Depth
import ApiScribe.Proofs.Source.Gates
import ApiScribe.Proofs.Files.Order
import ApiScribe.Proofs.Package.Scan
import ApiScribe.Proofs.Model.Growth
import ApiScribe.Proofs.Package.ImportIndex
import ApiScribe.Proofs.Generation.Scanned
import ApiScribe.Proofs.Source.Relative
import ApiScribe.Proofs.Source.Places
import ApiScribe.Proofs.Model.Merging
import ApiScribe.Source.UseWalk
import ApiScribe.Proofs.Source.UseExpansion
import ApiScribe.Proofs.Package.Permanence
