import Tablewright.Artifact.Basic
import Tablewright.Artifact.Bundle
import Tablewright.Artifact.Columns
import Tablewright.Artifact.Endpoint
import Tablewright.Artifact.Hook
import Tablewright.Artifact.Method
import Tablewright.Artifact.Model
import Tablewright.Artifact.Scaffold
import Tablewright.Artifact.Seed
import Tablewright.Artifact.Shapes
import Tablewright.Calendar.Moment
import Tablewright.Calendar.Timestamp
import Tablewright.Cli.Arguments
import Tablewright.Cli.Commands
import Tablewright.Cli.Progress
import Tablewright.Command.Process
import Tablewright.Conversation.Message
import Tablewright.Engine.Client
import Tablewright.Engine.Response
import Tablewright.Entity.Basic
import Tablewright.Failure.Basic
import Tablewright.Failure.Refusal
import Tablewright.Files.Action
import Tablewright.Files.Path
import Tablewright.Files.Project
import Tablewright.Files.Resolve
import Tablewright.Files.Tree
import Tablewright.Files.Walk
import Tablewright.Json.Basic
import Tablewright.Json.Display
import Tablewright.Json.Reader
import Tablewright.Json.Writer
import Tablewright.Ledger.Address
import Tablewright.Ledger.Row
import Tablewright.Ledger.Store
import Tablewright.Literal.Rows
import Tablewright.Log.Layout
import Tablewright.Main
import Tablewright.Naming.Names
import Tablewright.Number.Binary64
import Tablewright.Proofs.Action
import Tablewright.Proofs.Artifact.Attributes
import Tablewright.Proofs.Artifact.Body
import Tablewright.Proofs.Artifact.Bound
import Tablewright.Proofs.Artifact.Columns
import Tablewright.Proofs.Artifact.Declared
import Tablewright.Proofs.Artifact.Encoding
import Tablewright.Proofs.Artifact.Filling
import Tablewright.Proofs.Artifact.Handlers
import Tablewright.Proofs.Artifact.Imports
import Tablewright.Proofs.Artifact.Key
import Tablewright.Proofs.Artifact.Linking
import Tablewright.Proofs.Artifact.Place
import Tablewright.Proofs.Artifact.Reserved
import Tablewright.Proofs.Artifact.Route
import Tablewright.Proofs.Artifact.Rows
import Tablewright.Proofs.Artifact.Scope
import Tablewright.Proofs.Cli.Query
import Tablewright.Proofs.Cli.Scaffold
import Tablewright.Proofs.Conversation.Correction
import Tablewright.Proofs.Engine.Response
import Tablewright.Proofs.Entity.Built
import Tablewright.Proofs.Files.Alike
import Tablewright.Proofs.Files.Directory
import Tablewright.Proofs.Files.Edit
import Tablewright.Proofs.Files.EditedBytes
import Tablewright.Proofs.Files.Fault
import Tablewright.Proofs.Files.Follow
import Tablewright.Proofs.Files.Frame
import Tablewright.Proofs.Files.Inside
import Tablewright.Proofs.Files.Links
import Tablewright.Proofs.Files.Loss
import Tablewright.Proofs.Files.Names
import Tablewright.Proofs.Files.Overwrite
import Tablewright.Proofs.Files.Replacement
import Tablewright.Proofs.Files.Reported
import Tablewright.Proofs.Files.Store
import Tablewright.Proofs.Files.Stored
import Tablewright.Proofs.Files.Straight
import Tablewright.Proofs.Files.Tree
import Tablewright.Proofs.Files.Walk
import Tablewright.Proofs.Files.WellFormed
import Tablewright.Proofs.Json.Members
import Tablewright.Proofs.Json.Quoted
import Tablewright.Proofs.Json.Reader
import Tablewright.Proofs.Json.RoundTrip
import Tablewright.Proofs.Ledger.Fault
import Tablewright.Proofs.Ledger.File
import Tablewright.Proofs.Ledger.History
import Tablewright.Proofs.Ledger.Recording
import Tablewright.Proofs.Ledger.Row
import Tablewright.Proofs.Literal.Reader
import Tablewright.Proofs.Literal.Rows
import Tablewright.Proofs.Literal.Seed
import Tablewright.Proofs.Naming.Canonical
import Tablewright.Proofs.Naming.Normal
import Tablewright.Proofs.Naming.Snake
import Tablewright.Proofs.Naming.Spelling
import Tablewright.Proofs.Naming.TypeName
import Tablewright.Proofs.Naming.Words
import Tablewright.Proofs.Request.Normal
import Tablewright.Proofs.Request.Segmentation
import Tablewright.Proofs.Request.Template
import Tablewright.Proofs.Run.Agreement
import Tablewright.Proofs.Run.Apart
import Tablewright.Proofs.Run.Call
import Tablewright.Proofs.Run.Conversation
import Tablewright.Proofs.Run.Course
import Tablewright.Proofs.Run.Draft
import Tablewright.Proofs.Run.DryRun
import Tablewright.Proofs.Run.Ending
import Tablewright.Proofs.Run.Evidence
import Tablewright.Proofs.Run.Fault
import Tablewright.Proofs.Run.Frame
import Tablewright.Proofs.Run.Isolation
import Tablewright.Proofs.Run.LastWrite
import Tablewright.Proofs.Run.Observation
import Tablewright.Proofs.Run.Preview
import Tablewright.Proofs.Run.Processes
import Tablewright.Proofs.Run.Reachable
import Tablewright.Proofs.Run.ReadBack
import Tablewright.Proofs.Run.Remaining
import Tablewright.Proofs.Run.Secrecy
import Tablewright.Proofs.Run.Turn
import Tablewright.Proofs.Run.TurnedDown
import Tablewright.Proofs.Run.Written
import Tablewright.Proofs.Text.Literal
import Tablewright.Proofs.Text.Lowering
import Tablewright.Proofs.Text.Newline
import Tablewright.Proofs.Text.Normal
import Tablewright.Proofs.Text.Numeral
import Tablewright.Proofs.Text.Occurrence
import Tablewright.Proofs.Text.Order
import Tablewright.Proofs.Text.Split
import Tablewright.Proofs.Text.Utf8
import Tablewright.Proofs.Tool.Analysis
import Tablewright.Proofs.Tool.Check
import Tablewright.Proofs.Tool.Command
import Tablewright.Proofs.Tool.Contract
import Tablewright.Proofs.Tool.Created
import Tablewright.Proofs.Tool.Defect
import Tablewright.Proofs.Tool.Draft
import Tablewright.Proofs.Tool.Emission
import Tablewright.Proofs.Tool.Fault
import Tablewright.Proofs.Tool.Grammar
import Tablewright.Proofs.Tool.Hidden
import Tablewright.Proofs.Tool.LastWritten
import Tablewright.Proofs.Tool.Legible
import Tablewright.Proofs.Tool.Lesson
import Tablewright.Proofs.Tool.Migration
import Tablewright.Proofs.Tool.Models
import Tablewright.Proofs.Tool.Mounted
import Tablewright.Proofs.Tool.Preview
import Tablewright.Proofs.Tool.Reading
import Tablewright.Proofs.Tool.Routed
import Tablewright.Proofs.Tool.Shown
import Tablewright.Proofs.Workflow
import Tablewright.Proofs.Workflow.Growth
import Tablewright.Proofs.Workflow.Spec
import Tablewright.Request.Segmentation
import Tablewright.Request.Template
import Tablewright.Run.Loop
import Tablewright.Run.Step
import Tablewright.Settings.Basic
import Tablewright.Settings.EnvFile
import Tablewright.Settings.Value
import Tablewright.Text.Alphanumeric
import Tablewright.Text.Basic
import Tablewright.Text.Blank
import Tablewright.Text.Cased
import Tablewright.Text.Identifier
import Tablewright.Text.Lowercase
import Tablewright.Text.Numeral
import Tablewright.Text.Percent
import Tablewright.Text.Quoted
import Tablewright.Text.Search
import Tablewright.Text.Utf8
import Tablewright.Tool.Catalog
import Tablewright.Tool.Contract
import Tablewright.Tool.Handlers
import Tablewright.Tool.Input
import Tablewright.Tool.Models
import Tablewright.Tool.Name
import Tablewright.Tool.Outcome
import Tablewright.Tool.Schema
import Tablewright.Workflow.Duration
import Tablewright.Workflow.Report
import Tablewright.Workflow.Stage
import Tablewright.Workflow.State
import Tablewright.Yaml.Block
import Tablewright.Yaml.Cursor
import Tablewright.Yaml.Label
import Tablewright.Yaml.Lexer
import Tablewright.Yaml.Node
import Tablewright.Yaml.Plain
import Tablewright.Yaml.Quoted
import Tablewright.Yaml.Scalar
import Tablewright.Yaml.Token
import Tablewright.Yaml.Value
