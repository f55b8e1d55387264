import ReferencePages.Binary64
import ReferencePages.Binary64.Reader
import ReferencePages.Clock
import ReferencePages.CommandLine.Argument
import ReferencePages.CommandLine.Help
import ReferencePages.CommandLine.Invocation
import ReferencePages.CommandLine.Run
import ReferencePages.Config
import ReferencePages.Config.Loader
import ReferencePages.ConfigStruct
import ReferencePages.DecisionRecord
import ReferencePages.DecisionRecord.Directory
import ReferencePages.Diagram
import ReferencePages.Dictionary
import ReferencePages.Endpoint.Fault
import ReferencePages.Endpoint.Runner
import ReferencePages.EnvironmentFile
import ReferencePages.ErrorEnum
import ReferencePages.Excerpt
import ReferencePages.Failure
import ReferencePages.FileTree
import ReferencePages.ForeignKey
import ReferencePages.Glob
import ReferencePages.Json
import ReferencePages.Json.Display
import ReferencePages.Json.Printer
import ReferencePages.Json.Reader
import ReferencePages.MarkdownTable
import ReferencePages.Output
import ReferencePages.Page
import ReferencePages.Path
import ReferencePages.Pipeline
import ReferencePages.Prompt
import ReferencePages.Recipe.Configuration
import ReferencePages.Recipe.Crates
import ReferencePages.Recipe.Decisions
import ReferencePages.Recipe.Draft
import ReferencePages.Recipe.Errors
import ReferencePages.Recipe.Schema
import ReferencePages.Recipe.StateMachines
import ReferencePages.Schema
import ReferencePages.Scratch
import ReferencePages.Session
import ReferencePages.Sources
import ReferencePages.Summarizer
import ReferencePages.Text
import ReferencePages.Text.Blank
import ReferencePages.Text.Digit
import ReferencePages.Text.Lines
import ReferencePages.Text.Printable
import ReferencePages.Text.Quoted
import ReferencePages.Text.Scan
import ReferencePages.Text.Word
import ReferencePages.Toml
import ReferencePages.Toml.Reader
import ReferencePages.Transition
import ReferencePages.Url
import ReferencePages.Url.IpAddress
import ReferencePages.Utf8
import ReferencePages.Workspace.Crate
import ReferencePages.Workspace.Graph
import ReferencePages.Yaml
import ReferencePages.Yaml.MemberOrder
import ReferencePages.Yaml.Node
import ReferencePages.Yaml.Scalar
import ReferencePages.Yaml.Timestamp
import ReferencePages.Yaml.Token
import ReferencePages.Main
import ReferencePages.Proofs.Endpoint.Reply
import ReferencePages.Proofs.FileTree.Contents
import ReferencePages.Proofs.FileTree.Destination
import ReferencePages.Proofs.FileTree.Lookup
import ReferencePages.Proofs.FileTree.Search
import ReferencePages.Proofs.Output.Agree
import ReferencePages.Proofs.Output.Atomic
import ReferencePages.Proofs.Output.Write
import ReferencePages.Proofs.Path.Name
import ReferencePages.Proofs.Pipeline.Failure
import ReferencePages.Proofs.Pipeline.Offline
import ReferencePages.Proofs.Program.Agree
import ReferencePages.Proofs.Program.Files
import ReferencePages.Proofs.Program.Outcome
import ReferencePages.Proofs.Program.Reads
import ReferencePages.Proofs.Recipe.Reads
import ReferencePages.Proofs.Schema.Declaration
import ReferencePages.Proofs.Summarizer.Footprint
import ReferencePages.Proofs.Summarizer.Sequence
import ReferencePages.Proofs.Text.Search
import ReferencePages.Proofs.Schema.PrimaryKey
import ReferencePages.Proofs.Text.Trim
import ReferencePages.Proofs.Schema.Block
import ReferencePages.Proofs.Schema.Written
import ReferencePages.Proofs.Text.Infix
import ReferencePages.Proofs.Transition.Qualifier
import ReferencePages.Proofs.Transition.Guard
import ReferencePages.Proofs.Transition.Arm
import ReferencePages.Proofs.Transition.Noise
import ReferencePages.Proofs.Transition.Written
import ReferencePages.Proofs.Url.Path
import ReferencePages.Proofs.Endpoint.Exchange
import ReferencePages.Proofs.Summarizer.Exchange
import ReferencePages.Proofs.Page.Footer
import ReferencePages.Proofs.Recipe.Exchange
import ReferencePages.Proofs.Recipe.Entity
import ReferencePages.Proofs.Pipeline.Conversation
import ReferencePages.Proofs.Text.Phrase
import ReferencePages.Proofs.ForeignKey.Clause
import ReferencePages.Proofs.ForeignKey.Attribution
import ReferencePages.Proofs.ErrorEnum.Body
import ReferencePages.Proofs.ErrorEnum.Depth
import ReferencePages.Proofs.ErrorEnum.Layout
import ReferencePages.Proofs.ErrorEnum.Written
import ReferencePages.Proofs.ErrorEnum.Exchange
import ReferencePages.Proofs.ErrorEnum.Message
import ReferencePages.Proofs.ConfigSection.Partition
import ReferencePages.Proofs.ConfigStruct.Written
import ReferencePages.Proofs.Summarizer.Setup
import ReferencePages.Proofs.Path.Text
import ReferencePages.Proofs.FileTree.Sound
import ReferencePages.Proofs.FileTree.Grown
import ReferencePages.Proofs.FileTree.Made
import ReferencePages.Proofs.Glob.Directories
import ReferencePages.Proofs.Glob.Select
import ReferencePages.Proofs.Glob.Found
import ReferencePages.Proofs.Program.Repeat
import ReferencePages.Proofs.Glob.Repeat
import ReferencePages.Proofs.Recipe.Repeat
import ReferencePages.Proofs.Workspace.Repeat
import ReferencePages.Proofs.Output.Again
import ReferencePages.Proofs.Pipeline.Again
import ReferencePages.Proofs.Page.Fence
import ReferencePages.Proofs.Page.Diagram
import ReferencePages.Proofs.Pipeline.Diagrams
import ReferencePages.Proofs.Text.Order
import ReferencePages.Proofs.Workspace.Members
import ReferencePages.Proofs.Workspace.Edges
import ReferencePages.Proofs.Workspace.Isolation
import ReferencePages.Proofs.Glob.Distinct
import ReferencePages.Proofs.Toml.Keys
import ReferencePages.Proofs.Workspace.Distinct
import ReferencePages.Proofs.MarkdownTable.Rows
import ReferencePages.Proofs.MarkdownTable.Extracted
import ReferencePages.Proofs.MarkdownTable.Transitions
import ReferencePages.Proofs.Diagram.Parts
import ReferencePages.Proofs.Diagram.Entities
import ReferencePages.Proofs.Diagram.Dependencies
import ReferencePages.Proofs.Workspace.Drawn
import ReferencePages.Proofs.Page.Kept
import ReferencePages.Proofs.CommandLine.Ending
import ReferencePages.Proofs.Scratch.Transcript
import ReferencePages.Proofs.Utf8.Form
import ReferencePages.Proofs.Utf8.Decode
import ReferencePages.Proofs.Prompt.Excerpt
import ReferencePages.Proofs.Endpoint.Answer
import ReferencePages.Proofs.Page.Content
import ReferencePages.Proofs.Page.Parts
import ReferencePages.Proofs.Diagram.States
import ReferencePages.Proofs.Schema.Grouping
import ReferencePages.Proofs.Schema.Statement
import ReferencePages.Proofs.Config.Layers
import ReferencePages.Proofs.Config.Places
import ReferencePages.Proofs.Config.Precedence
import ReferencePages.Proofs.ConfigStruct.Extent
import ReferencePages.Proofs.Documentation.Attribute
import ReferencePages.Proofs.ErrorEnum.Pairing
import ReferencePages.Proofs.Text.Join
import ReferencePages.Proofs.ForeignKey.Written
import ReferencePages.Proofs.ErrorEnum.Boundary
import ReferencePages.Proofs.DecisionRecord.Decision
import ReferencePages.Proofs.DecisionRecord.Excerpt
import ReferencePages.Proofs.Transition.Whole
import ReferencePages.Proofs.Excerpt.Cut
import ReferencePages.Proofs.ConfigStruct.Sentence
import ReferencePages.Proofs.Summarizer.Line
import ReferencePages.Proofs.Transition.Joining
import ReferencePages.Proofs.Sources.Requirement
