import Playtest.Bridge.Channel
import Playtest.Bridge.Command
import Playtest.Bridge.Keystroke
import Playtest.Bridge.Message
import Playtest.Browser.Console
import Playtest.Browser.Launch
import Playtest.Browser.Page
import Playtest.Files.Disk
import Playtest.Files.Path
import Playtest.Json.Fault
import Playtest.Json.Lexeme
import Playtest.Json.Members
import Playtest.Json.Reading
import Playtest.Json.Value
import Playtest.Main
import Playtest.Keyed
import Playtest.Number.Binary64
import Playtest.Number.Decimal
import Playtest.Number.Duration
import Playtest.Number.Literal
import Playtest.Program.Arguments
import Playtest.Program.Failure
import Playtest.Program.Host
import Playtest.Program.Log
import Playtest.Program.Options
import Playtest.Program.Output
import Playtest.Program.Refusal
import Playtest.Program.Session
import Playtest.Program.Usage
import Playtest.Rehearsal.ScriptedPage
import Playtest.Run.Dialogue
import Playtest.Run.Error
import Playtest.Run.Journal
import Playtest.Run.Performance
import Playtest.Run.Poll
import Playtest.Run.Summary
import Playtest.Run.World
import Playtest.Script.Activation
import Playtest.Script.Cue
import Playtest.Script.Directive
import Playtest.Script.Line
import Playtest.Script.TestFile
import Playtest.Settings.Basic
import Playtest.Settings.Datum
import Playtest.Settings.Layers
import Playtest.Settings.Reading
import Playtest.Settings.Variable
import Playtest.Site.Location
import Playtest.Terminal.Display
import Playtest.Terminal.Report
import Playtest.Terminal.Style
import Playtest.Text.Blank
import Playtest.Text.Number
import Playtest.Text.Quoted
import Playtest.Text.Search
import Playtest.Text.Similarity
import Playtest.Text.Word
import Playtest.Text.Wrap
import Playtest.Toml.Document
import Playtest.Toml.Scalar
import Playtest.Toml.Value
import Playtest.Url.Basic
import Playtest.Url.Domain
import Playtest.Url.Error
import Playtest.Url.Folding
import Playtest.Url.Hierarchy
import Playtest.Url.Host
import Playtest.Url.Percent
import Playtest.Url.Reading
import Playtest.Variables
import Playtest.Proofs.Run.Inlining
import Playtest.Proofs.Run.Effects
import Playtest.Proofs.Run.Chronicle
import Playtest.Proofs.Run.Conversation
import Playtest.Proofs.Run.Waiting
import Playtest.Proofs.Run.Closing
import Playtest.Proofs.Run.Windows
import Playtest.Proofs.Run.TurnTaking
import Playtest.Proofs.Run.Trail
import Playtest.Proofs.Run.Slot
import Playtest.Proofs.Run.Verdict
import Playtest.Proofs.Run.Isolation
import Playtest.Proofs.Run.Origins
import Playtest.Proofs.Run.Accounting
import Playtest.Proofs.Run.Conservation
import Playtest.Proofs.Script.Canonical
import Playtest.Proofs.Script.Bodies
import Playtest.Proofs.Script.Includes
import Playtest.Proofs.Script.Layout
import Playtest.Proofs.Run.Loop
import Playtest.Proofs.Run.Simulation
import Playtest.Proofs.Run.Rendering
import Playtest.Proofs.Run.Recut
import Playtest.Proofs.Run.Chunking
import Playtest.Proofs.Files.Cleaning
import Playtest.Proofs.Url.Decoding
import Playtest.Proofs.Site.Serving
import Playtest.Proofs.Site.Server
import Playtest.Proofs.Url.Bounds
import Playtest.Proofs.Url.Plain
import Playtest.Proofs.Files.Walking
import Playtest.Proofs.Site.Containment
import Playtest.Proofs.Browser.Forwarding
import Playtest.Proofs.Json.Grammar
import Playtest.Proofs.Json.Cutting
import Playtest.Proofs.Json.InPlace
import Playtest.Proofs.Json.Integers
import Playtest.Proofs.Json.Compact
import Playtest.Proofs.Bridge.Scripts
import Playtest.Proofs.Bridge.Members
import Playtest.Proofs.Bridge.Keys
import Playtest.Proofs.Bridge.Keystrokes
import Playtest.Proofs.Bridge.Events
import Playtest.Proofs.Bridge.RoundTrip
import Playtest.Proofs.Run.Polling
import Playtest.Proofs.Browser.Loss
import Playtest.Proofs.Url.Pairs
import Playtest.Proofs.Program.CommandLine
import Playtest.Proofs.Program.ExitStatus
import Playtest.Proofs.Settings.Layering
import Playtest.Proofs.Settings.Fields
import Playtest.Proofs.Settings.Precedence
import Playtest.Proofs.Settings.Waits
import Playtest.Proofs.Run.Slot
