import HostProvision.Cli.Arguments
import HostProvision.Cli.Colour
import HostProvision.Cli.Complaint
import HostProvision.Cli.Display
import HostProvision.Cli.Help
import HostProvision.Cli.LogDirective
import HostProvision.Cli.LogFilter
import HostProvision.Cli.Options
import HostProvision.Cli.Program
import HostProvision.Cli.Usage
import HostProvision.CommandLine
import HostProvision.Compiler
import HostProvision.Elapsed
import HostProvision.Elapsed.Render
import HostProvision.Elapsed.Total
import HostProvision.Ensure
import HostProvision.Event
import HostProvision.Failure
import HostProvision.Formula
import HostProvision.Homebrew
import HostProvision.Host.FileTree
import HostProvision.Host.Launch
import HostProvision.Host.Machine
import HostProvision.Host.World
import HostProvision.IoError
import HostProvision.Json.Record
import HostProvision.Json.Token
import HostProvision.Json.Value
import HostProvision.Main
import HostProvision.PathUpdate
import HostProvision.Plan
import HostProvision.Procedure
import HostProvision.Proofs.Cli.Course
import HostProvision.Proofs.Cli.Demand
import HostProvision.Proofs.Cli.ExtraArguments
import HostProvision.Proofs.Cli.Invocation
import HostProvision.Proofs.Cli.LogFiles
import HostProvision.Proofs.Cli.Logging
import HostProvision.Proofs.Cli.PathFile
import HostProvision.Proofs.Cli.Publication
import HostProvision.Proofs.Cli.Selection
import HostProvision.Proofs.Cli.Verbosity
import HostProvision.Proofs.Confinement
import HostProvision.Proofs.Elapsed.Breakdown
import HostProvision.Proofs.Elapsed.Total
import HostProvision.Proofs.Ensure.Contract
import HostProvision.Proofs.Ensure.Course
import HostProvision.Proofs.Homebrew.Captured
import HostProvision.Proofs.Homebrew.Listing
import HostProvision.Proofs.Homebrew.Outdated
import HostProvision.Proofs.Json.Forms
import HostProvision.Proofs.Json.Grammar
import HostProvision.Proofs.Json.Lexeme
import HostProvision.Proofs.Json.Record
import HostProvision.Proofs.Json.Token
import HostProvision.Proofs.Json.Value
import HostProvision.Proofs.Lockstep
import HostProvision.Proofs.Notices
import HostProvision.Proofs.Parallel
import HostProvision.Proofs.Provision.Convergence
import HostProvision.Proofs.Provision.Duration
import HostProvision.Proofs.Provision.Failures
import HostProvision.Proofs.Provision.Inventory
import HostProvision.Proofs.Provision.Order
import HostProvision.Proofs.Provision.Phase
import HostProvision.Proofs.Provision.Rehearsal
import HostProvision.Proofs.Provision.Steering
import HostProvision.Proofs.Provision.Steps
import HostProvision.Proofs.Provision.Timing
import HostProvision.Proofs.SearchPath.Export
import HostProvision.Proofs.SearchPath.Lookup
import HostProvision.Proofs.SearchPath.Prepend
import HostProvision.Proofs.Settings
import HostProvision.Proofs.StoredForms
import HostProvision.Proofs.Text.LineFeeds
import HostProvision.Proofs.Text.Pieces
import HostProvision.Proofs.Text.Separators
import HostProvision.Proofs.Text.Utf8
import HostProvision.Proofs.Transcript
import HostProvision.Proofs.Wire
import HostProvision.Report
import HostProvision.Script
import HostProvision.SearchPath
import HostProvision.Settings
import HostProvision.Shell.Arithmetic
import HostProvision.Shell.Builtin.Control
import HostProvision.Shell.Builtin.Declarations
import HostProvision.Shell.Builtin.Directory
import HostProvision.Shell.Builtin.Input
import HostProvision.Shell.Builtin.Output
import HostProvision.Shell.Builtin.Signals
import HostProvision.Shell.Child
import HostProvision.Shell.Eval
import HostProvision.Shell.Expansion
import HostProvision.Shell.Field
import HostProvision.Shell.Floating
import HostProvision.Shell.Parser
import HostProvision.Shell.Pattern
import HostProvision.Shell.Printing
import HostProvision.Shell.Program
import HostProvision.Shell.Reader
import HostProvision.Shell.Redirect
import HostProvision.Shell.Script
import HostProvision.Shell.Signal
import HostProvision.Shell.Simple
import HostProvision.Shell.State
import HostProvision.Shell.Stream
import HostProvision.Shell.Syntax
import HostProvision.Shell.Test
import HostProvision.Shell.Token
import HostProvision.Shell.Variable
import HostProvision.Shell.Word
import HostProvision.Text.Alphanumeric
import HostProvision.Text.Blank
import HostProvision.Text.ControlSequence
import HostProvision.Text.Invisible
import HostProvision.Text.Lines
import HostProvision.Text.Quoted
import HostProvision.Text.Regex
import HostProvision.Text.Regex.Parser
import HostProvision.Text.Similarity
import HostProvision.Text.Utf8
import HostProvision.Wire
import HostProvision.World
