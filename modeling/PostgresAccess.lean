import PostgresAccess.Assembly
import PostgresAccess.Client
import PostgresAccess.CommandLine.Arguments
import PostgresAccess.CommandLine.Program
import PostgresAccess.Descriptor
import PostgresAccess.Descriptor.Replacement
import PostgresAccess.Environment
import PostgresAccess.Failure
import PostgresAccess.Failure.Stated
import PostgresAccess.File
import PostgresAccess.File.System
import PostgresAccess.File.Tree
import PostgresAccess.Generator.Sha512
import PostgresAccess.Generator.Twister
import PostgresAccess.Helper
import PostgresAccess.Helper.Execution
import PostgresAccess.Helper.Runner
import PostgresAccess.Json.Printer
import PostgresAccess.Json.Reader
import PostgresAccess.Main
import PostgresAccess.Notice
import PostgresAccess.Numeral.Binary64
import PostgresAccess.Numeral.Comparison
import PostgresAccess.Numeral.Integer
import PostgresAccess.Numeral.Lenient
import PostgresAccess.Numeral.Nearest
import PostgresAccess.Numeral.Shortest
import PostgresAccess.Program.Condition
import PostgresAccess.Program.Copying
import PostgresAccess.Program.Format
import PostgresAccess.Program.Launch
import PostgresAccess.Program.Option
import PostgresAccess.Program.Printing
import PostgresAccess.Program.Replacing
import PostgresAccess.Program.Run
import PostgresAccess.Program.Shell.Arithmetic
import PostgresAccess.Program.Shell.Builtin
import PostgresAccess.Program.Shell.Evaluation
import PostgresAccess.Program.Shell.Expansion
import PostgresAccess.Program.Shell.Pattern
import PostgresAccess.Program.Shell.Progress
import PostgresAccess.Program.Shell.Script
import PostgresAccess.Program.Shell.Signal
import PostgresAccess.Program.Shell.State
import PostgresAccess.Program.Shell.Stream
import PostgresAccess.Program.Shell.Token
import PostgresAccess.Program.Shell.Word
import PostgresAccess.Program.Utility
import PostgresAccess.Proofs.Assembly.Course
import PostgresAccess.Proofs.Assembly.Password
import PostgresAccess.Proofs.Assembly.Soundness
import PostgresAccess.Proofs.Kind
import PostgresAccess.Proofs.Result
import PostgresAccess.Proofs.Secrecy.Assembly
import PostgresAccess.Proofs.Secrecy.CommandLine
import PostgresAccess.Proofs.Secrecy.Reading
import PostgresAccess.Proofs.Settings.Validity
import PostgresAccess.Proofs.Version.Identifier
import PostgresAccess.Proofs.Version.Order
import PostgresAccess.Proofs.Version.Precedence
import PostgresAccess.Proofs.Words
import PostgresAccess.Session
import PostgresAccess.Settings
import PostgresAccess.Settings.Fault
import PostgresAccess.Settings.Reading
import PostgresAccess.Settings.Rule
import PostgresAccess.Settings.Source
import PostgresAccess.Text.Blank
import PostgresAccess.Text.Digit
import PostgresAccess.Text.Encoding
import PostgresAccess.Text.Printable
import PostgresAccess.Text.Quoted
import PostgresAccess.Text.Utf8
import PostgresAccess.Toml.Collection
import PostgresAccess.Toml.Document
import PostgresAccess.Toml.Fault
import PostgresAccess.Toml.Nest
import PostgresAccess.Toml.Scalar
import PostgresAccess.Toml.Text
import PostgresAccess.Tunnel
import PostgresAccess.Value
import PostgresAccess.Value.Fault
import PostgresAccess.Value.Literal
import PostgresAccess.Value.Order
import PostgresAccess.Version
import PostgresAccess.Version.Comparison
import PostgresAccess.Version.Operand
import PostgresAccess.Version.Order
import PostgresAccess.Version.Parser
import PostgresAccess.Version.Parts
import PostgresAccess.Words
import PostgresAccess.Proofs.Version.Trichotomy
import PostgresAccess.Proofs.Version.Reading
import PostgresAccess.Proofs.Client.Lifecycle
import PostgresAccess.Proofs.Client.MinorRelease
import PostgresAccess.Proofs.Settings.Faults
import PostgresAccess.Proofs.Settings.Independence
import PostgresAccess.Proofs.Text.Replacement
import PostgresAccess.Proofs.Text.Utf8
import PostgresAccess.Proofs.Settings.Precedence
import PostgresAccess.Proofs.Toml.Digits
import PostgresAccess.Proofs.Settings.Loading
import PostgresAccess.Proofs.Helper.Scheduling
import PostgresAccess.Proofs.Helper.Limits
import PostgresAccess.Proofs.Helper.Reaping
import PostgresAccess.Proofs.Numeral.Runs
import PostgresAccess.Proofs.Version.Grammar
import PostgresAccess.Proofs.Helper.Timing
import PostgresAccess.Proofs.Helper.Reporting
import PostgresAccess.Proofs.Assembly.Delivery
import PostgresAccess.Proofs.Assembly.HelperLine
import PostgresAccess.Proofs.Assembly.LateChecks
import PostgresAccess.Proofs.Client.Routing
import PostgresAccess.Proofs.Client.Protection
import PostgresAccess.Proofs.Settings.Listing
import PostgresAccess.Proofs.Secrecy.Rejection
import PostgresAccess.Proofs.Numeral.Agreement
import PostgresAccess.Proofs.Settings.Variables
import PostgresAccess.Proofs.Tunnel.SeedText
