import QueryTypings.Binary64
import QueryTypings.BinaryInsertion
import QueryTypings.Check.Accepted
import QueryTypings.Check.Definitions
import QueryTypings.Check.Fields
import QueryTypings.Check.Incremental
import QueryTypings.Check.Inquiry
import QueryTypings.Check.Merging
import QueryTypings.Check.Operations
import QueryTypings.Check.Problem
import QueryTypings.Check.Spreads
import QueryTypings.Check.Subscription
import QueryTypings.Check.Usage
import QueryTypings.Check.Variables
import QueryTypings.CommandLine.Arguments
import QueryTypings.CommandLine.Literal
import QueryTypings.CommandLine.Markup
import QueryTypings.CommandLine.Run
import QueryTypings.CommandLine.Style
import QueryTypings.Config.Basic
import QueryTypings.Config.Environment
import QueryTypings.Config.Filter
import QueryTypings.Config.Report
import QueryTypings.Config.Scalar
import QueryTypings.Config.Settings
import QueryTypings.Declaration.Operations
import QueryTypings.Declaration.Scalar
import QueryTypings.Declaration.SchemaFile
import QueryTypings.Exported.Documents
import QueryTypings.FileTree.Basic
import QueryTypings.FileTree.Change
import QueryTypings.Graphql.Document
import QueryTypings.Graphql.Document.Encode
import QueryTypings.Graphql.Document.Read
import QueryTypings.Graphql.Document.Spreads
import QueryTypings.Graphql.Document.Tree
import QueryTypings.Graphql.Position
import QueryTypings.Graphql.Printed
import QueryTypings.Graphql.Token
import QueryTypings.Graphql.Token.Scan
import QueryTypings.Json.Basic
import QueryTypings.Json.Printer
import QueryTypings.Json.Reader
import QueryTypings.Main
import QueryTypings.OrderedMap
import QueryTypings.Path.Artifact
import QueryTypings.Path.Basic
import QueryTypings.Project.Dispatch
import QueryTypings.Project.Event
import QueryTypings.Project.Fault
import QueryTypings.Project.Plugin
import QueryTypings.Project.Prepare
import QueryTypings.Project.Rehearsal
import QueryTypings.Project.Writer
import QueryTypings.Schema.Annotation
import QueryTypings.Schema.Basic
import QueryTypings.Schema.Build
import QueryTypings.Schema.Builtin
import QueryTypings.Schema.Check
import QueryTypings.Schema.Literal
import QueryTypings.Schema.Load
import QueryTypings.Shape.Collect
import QueryTypings.Shape.Object
import QueryTypings.Text.Blank
import QueryTypings.Text.CellWidth
import QueryTypings.Text.Emoji
import QueryTypings.Text.Hex
import QueryTypings.Text.Identifiers
import QueryTypings.Text.Integer
import QueryTypings.Text.Lines
import QueryTypings.Text.LowerCase
import QueryTypings.Text.Printable
import QueryTypings.Text.Quoted
import QueryTypings.Text.Ranges
import QueryTypings.Text.Suggestion
import QueryTypings.Text.Utf8
import QueryTypings.Text.Word
import QueryTypings.Typescript.Statement
import QueryTypings.Watch.Barrier
import QueryTypings.Watch.Glob
import QueryTypings.Watch.Interleaving
import QueryTypings.Watch.Watcher
import QueryTypings.World
import QueryTypings.Proofs.Shape.Depth
import QueryTypings.Proofs.Shape.Expansion
import QueryTypings.Proofs.Execution.Agreement
import QueryTypings.Proofs.Execution.Response
import QueryTypings.Proofs.Execution.Soundness
import QueryTypings.Proofs.Path.Artifact
import QueryTypings.Proofs.FileTree.Frame
import QueryTypings.Proofs.FileTree.Subtree
import QueryTypings.Proofs.Project.Writing
import QueryTypings.Proofs.Project.Start
import QueryTypings.Proofs.Project.Handling
import QueryTypings.Proofs.Project.Generation
import QueryTypings.Proofs.Project.Convergence
import QueryTypings.Proofs.Project.Atomicity
import QueryTypings.Proofs.FileTree.Reach
import QueryTypings.Proofs.Project.Preparation
import QueryTypings.Proofs.Project.History
import QueryTypings.Proofs.Watch.Scanned
import QueryTypings.Proofs.Project.Rebuild
import QueryTypings.Proofs.Project.Confinement
import QueryTypings.Proofs.Exported.SelfContained
import QueryTypings.Proofs.Project.Imports
import QueryTypings.Proofs.Project.Sharing
import QueryTypings.Proofs.Path.Climbing
import QueryTypings.Proofs.Watch.Coverage
import QueryTypings.Proofs.Watch.Turns
import QueryTypings.Proofs.Watch.Closing
import QueryTypings.Proofs.Watch.Protocol
import QueryTypings.Proofs.Watch.Sequence
import QueryTypings.Proofs.FileTree.Ways
import QueryTypings.Proofs.FileTree.Parallel
import QueryTypings.Proofs.Project.Independence
import QueryTypings.Proofs.Schema.Spelling
import QueryTypings.Proofs.Declaration.Constants
import QueryTypings.Proofs.Json.Rereading
import QueryTypings.Proofs.Graphql.Readers
import QueryTypings.Proofs.Graphql.Reading
import QueryTypings.Proofs.Exported.Decoding
import QueryTypings.Proofs.Check.SelectionSets
import QueryTypings.Proofs.Check.Meeting
import QueryTypings.Proofs.Declaration.Safety
import QueryTypings.Proofs.Schema.Distinct
import QueryTypings.Proofs.Declaration.Registry
import QueryTypings.Proofs.Declaration.Closed
import QueryTypings.Proofs.Project.Clashes
import QueryTypings.Proofs.Path.Images
import QueryTypings.Proofs.Project.Accounting
import QueryTypings.Proofs.Project.Lifecycle
import QueryTypings.Proofs.Watch.Lossless
import QueryTypings.Proofs.Graphql.Search
import QueryTypings.Proofs.OrderedMap
import QueryTypings.Proofs.Execution.Choices
import QueryTypings.Proofs.Shape.Inlining
import QueryTypings.Proofs.Shape.Members
import QueryTypings.Proofs.Check.Blank
import QueryTypings.Proofs.Check.Comments
import QueryTypings.Proofs.Shape.Termination
import QueryTypings.Proofs.Graphql.Mangled
import QueryTypings.Proofs.Graphql.Recovery
import QueryTypings.Proofs.Graphql.Conversion
import QueryTypings.Proofs.Graphql.Unplaced
import QueryTypings.Proofs.Graphql.Decoder
import QueryTypings.Proofs.Declaration.Statements
import QueryTypings.Proofs.Declaration.TypeNames
import QueryTypings.Proofs.Text.Lines
import QueryTypings.Proofs.Typescript.Comments
import QueryTypings.Proofs.Declaration.Notations
import QueryTypings.Proofs.Declaration.Inputs
import QueryTypings.Proofs.Path.Specifiers
import QueryTypings.Proofs.Project.Specifiers
import QueryTypings.Proofs.Project.Spellings
import QueryTypings.Proofs.Text.Utf8
import QueryTypings.Proofs.Schema.Obstacles
import QueryTypings.Proofs.Project.Loading
import QueryTypings.Proofs.Config.Filter
import QueryTypings.Proofs.Declaration.Bindings
import QueryTypings.Proofs.Shape.Repetition
import QueryTypings.Proofs.Check.Claims
import QueryTypings.Proofs.Check.Rearranged
import QueryTypings.Proofs.Declaration.Order
import QueryTypings.Proofs.Project.References
import QueryTypings.Proofs.Config.Endings
import QueryTypings.Proofs.CommandLine.Configuring
import QueryTypings.Proofs.CommandLine.Scalars
import QueryTypings.Proofs.Shape.Merging
