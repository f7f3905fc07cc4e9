import DeclGraph.CommandLine.Help
import DeclGraph.CommandLine.Invocation
import DeclGraph.CommandLine.Options
import DeclGraph.CommandLine.Run
import DeclGraph.CommandLine.Snapshot
import DeclGraph.Config.Basic
import DeclGraph.Config.Load
import DeclGraph.DeclarationMap.Basic
import DeclGraph.DeclarationMap.Json
import DeclGraph.DeclarationMap.Key
import DeclGraph.Declarations.Basic
import DeclGraph.Declarations.OfTree
import DeclGraph.Diagram.Basic
import DeclGraph.Diagram.Dot
import DeclGraph.Diagram.Json
import DeclGraph.Duration
import DeclGraph.Error
import DeclGraph.Extraction.Go
import DeclGraph.Extraction.Python
import DeclGraph.Extraction.Registry
import DeclGraph.Graph
import DeclGraph.Graph.Json
import DeclGraph.Index
import DeclGraph.Index.Json
import DeclGraph.Json.Decode
import DeclGraph.Json.Syntax
import DeclGraph.Json.Value
import DeclGraph.Language
import DeclGraph.Linking
import DeclGraph.Machine.FileSystem
import DeclGraph.Machine.Launcher
import DeclGraph.Machine.Programs
import DeclGraph.Machine.Shell.Formula
import DeclGraph.Machine.Shell.Pattern
import DeclGraph.Machine.Shell.Reader
import DeclGraph.Machine.Shell.Run
import DeclGraph.Machine.Shell.Script
import DeclGraph.Machine.Shell.Tools
import DeclGraph.Main
import DeclGraph.Path
import DeclGraph.Project.Basic
import DeclGraph.Project.Json
import DeclGraph.Proofs.CommandLine.Omission
import DeclGraph.Proofs.CommandLine.Output
import DeclGraph.Proofs.CommandLine.Scanning
import DeclGraph.Proofs.DeclarationMap.Graph
import DeclGraph.Proofs.DeclarationMap.Groups
import DeclGraph.Proofs.DeclarationMap.Kinds
import DeclGraph.Proofs.DeclarationMap.LastEntries
import DeclGraph.Proofs.DeclarationMap.Receivers
import DeclGraph.Proofs.Declarations.Calls
import DeclGraph.Proofs.Declarations.Closed
import DeclGraph.Proofs.Declarations.Collected
import DeclGraph.Proofs.Declarations.Comments
import DeclGraph.Proofs.Declarations.Graph
import DeclGraph.Proofs.Declarations.Imports
import DeclGraph.Proofs.Declarations.Keys
import DeclGraph.Proofs.Declarations.Recursion
import DeclGraph.Proofs.Declarations.Texts
import DeclGraph.Proofs.Declarations.UnusedImports
import DeclGraph.Proofs.Diagram.Document
import DeclGraph.Proofs.Diagram.RoundTrip
import DeclGraph.Proofs.Extraction.Registrations
import DeclGraph.Proofs.FileSystem.Contents
import DeclGraph.Proofs.FileSystem.Descent
import DeclGraph.Proofs.FileSystem.Places
import DeclGraph.Proofs.FileSystem.Resolution
import DeclGraph.Proofs.FileSystem.Writing
import DeclGraph.Proofs.Index.Coverage
import DeclGraph.Proofs.Index.Files
import DeclGraph.Proofs.Index.Results
import DeclGraph.Proofs.Json.RoundTrip
import DeclGraph.Proofs.LastGiven
import DeclGraph.Proofs.Linking
import DeclGraph.Proofs.Linking.Additions
import DeclGraph.Proofs.Linking.CallSites
import DeclGraph.Proofs.Lists
import DeclGraph.Proofs.Path.Inside
import DeclGraph.Proofs.Path.Pieces
import DeclGraph.Proofs.Project.Confinement
import DeclGraph.Proofs.Project.Depth
import DeclGraph.Proofs.Project.Listing
import DeclGraph.Proofs.Project.Requests
import DeclGraph.Proofs.Project.Roots
import DeclGraph.Proofs.Server.Conversation
import DeclGraph.Proofs.Server.Exchange
import DeclGraph.Proofs.Server.Selection
import DeclGraph.Proofs.Syntax.Comments
import DeclGraph.Proofs.Syntax.ExpressionNames
import DeclGraph.Proofs.Syntax.Names
import DeclGraph.Proofs.Syntax.Places
import DeclGraph.Proofs.Syntax.SourceOrder
import DeclGraph.Proofs.Syntax.StatementNames
import DeclGraph.Proofs.Syntax.Traversal
import DeclGraph.Proofs.Syntax.WellFormed
import DeclGraph.Proofs.Text.ByteOrder
import DeclGraph.Proofs.Tree.Assembly
import DeclGraph.Proofs.Tree.Bounds
import DeclGraph.Proofs.Tree.Files
import DeclGraph.Proofs.Tree.Numbering
import DeclGraph.Proofs.Tree.Recursion
import DeclGraph.Proofs.Tree.RoundTrip
import DeclGraph.Proofs.Tree.Shape
import DeclGraph.Proofs.Tree.Truncation
import DeclGraph.Proofs.Tree.Walk
import DeclGraph.Server.Basic
import DeclGraph.Server.Reply
import DeclGraph.Server.Request
import DeclGraph.Service
import DeclGraph.Syntax.Annotation
import DeclGraph.Syntax.CasePattern
import DeclGraph.Syntax.Context
import DeclGraph.Syntax.Cursor
import DeclGraph.Syntax.Display
import DeclGraph.Syntax.Expression
import DeclGraph.Syntax.Field
import DeclGraph.Syntax.Layout
import DeclGraph.Syntax.Numeral
import DeclGraph.Syntax.Parser
import DeclGraph.Syntax.Quotation
import DeclGraph.Syntax.SimpleStatement
import DeclGraph.Syntax.Source
import DeclGraph.Syntax.Statement
import DeclGraph.Syntax.Target
import DeclGraph.Syntax.Token
import DeclGraph.Syntax.Trailer
import DeclGraph.Syntax.Tree
import DeclGraph.Text.Blank
import DeclGraph.Text.CharRange
import DeclGraph.Text.Identifier
import DeclGraph.Text.Lines
import DeclGraph.Text.Lowercase
import DeclGraph.Text.Utf8
import DeclGraph.Toml.Decode
import DeclGraph.Toml.Document
import DeclGraph.Toml.Number
import DeclGraph.Toml.Text
import DeclGraph.Toml.Value
import DeclGraph.Tree.Directory
import DeclGraph.Tree.Entry
import DeclGraph.Tree.Json
import DeclGraph.Tree.Listing
