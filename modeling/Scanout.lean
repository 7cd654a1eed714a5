import Scanout.Backend.Call
import Scanout.Bench.Faults
import Scanout.Bench.Handles
import Scanout.Bench.Seat
import Scanout.Bench.Session
import Scanout.CommandLine
import Scanout.Config.Load
import Scanout.Config.Schema
import Scanout.Config.Sections
import Scanout.Decimal.Binary
import Scanout.Decimal.Layout
import Scanout.Decimal.Literal
import Scanout.Decimal.Shortest
import Scanout.Demo
import Scanout.Driver.Entry
import Scanout.Driver.Operation
import Scanout.Driver.State
import Scanout.Egl.Call
import Scanout.Failure
import Scanout.Frontend.Call
import Scanout.Frontend.Scripted
import Scanout.Frontend.System
import Scanout.Graphics.Api
import Scanout.Graphics.Context
import Scanout.Graphics.Flags
import Scanout.Graphics.Placement
import Scanout.Headless.Backend
import Scanout.Headless.Egl
import Scanout.Input.Devices
import Scanout.Input.Fallback
import Scanout.Input.Probe
import Scanout.Input.Scripted
import Scanout.Input.System
import Scanout.Json.Codec
import Scanout.Json.Fault
import Scanout.Json.Numeral
import Scanout.Json.Reader
import Scanout.Json.Schema
import Scanout.Json.Skip
import Scanout.Json.Text
import Scanout.Json.Variant
import Scanout.Log.Filter
import Scanout.Log.Record
import Scanout.Machine.OsError
import Scanout.Machine.Path
import Scanout.Machine.Question
import Scanout.Machine.Signal
import Scanout.Machine.State
import Scanout.Main
import Scanout.Native.Backend
import Scanout.Native.Call
import Scanout.Native.Egl
import Scanout.Native.Library
import Scanout.Panel
import Scanout.Pattern.Automaton
import Scanout.Pattern.Beginnings
import Scanout.Pattern.Brackets
import Scanout.Pattern.CharSet
import Scanout.Pattern.Compile
import Scanout.Pattern.Count
import Scanout.Pattern.Cursor
import Scanout.Pattern.Depth
import Scanout.Pattern.Escape
import Scanout.Pattern.Expr
import Scanout.Pattern.Fault
import Scanout.Pattern.Group
import Scanout.Pattern.Layout
import Scanout.Pattern.Meaning
import Scanout.Pattern.NormalForm
import Scanout.Pattern.Place
import Scanout.Pattern.Reader
import Scanout.Pattern.Report
import Scanout.Pattern.Runs
import Scanout.Pattern.Sharing
import Scanout.Pattern.Tree
import Scanout.Pattern.Width
import Scanout.Pattern.Words
import Scanout.Platform
import Scanout.Program
import Scanout.Proofs.Agreement.Backends
import Scanout.Proofs.Agreement.Capabilities
import Scanout.Proofs.Agreement.Parallel
import Scanout.Proofs.Bench.Ensemble
import Scanout.Proofs.Bench.Independence
import Scanout.Proofs.Config.Forms
import Scanout.Proofs.Config.Integers
import Scanout.Proofs.Config.Legible
import Scanout.Proofs.Config.Loading
import Scanout.Proofs.Config.Partial
import Scanout.Proofs.Config.Repeated
import Scanout.Proofs.Config.RoundTrip
import Scanout.Proofs.Config.Truncated
import Scanout.Proofs.Config.WellFormed
import Scanout.Proofs.Demo.Ledger
import Scanout.Proofs.Demo.Loop
import Scanout.Proofs.Demo.Run
import Scanout.Proofs.Demo.Setup
import Scanout.Proofs.Driver.Calls
import Scanout.Proofs.Driver.Courses
import Scanout.Proofs.Driver.Destroyed
import Scanout.Proofs.Driver.History
import Scanout.Proofs.Driver.Life
import Scanout.Proofs.Driver.ModeSetting
import Scanout.Proofs.Driver.SupportTable
import Scanout.Proofs.Driver.SurfaceBracket
import Scanout.Proofs.Egl.Layer
import Scanout.Proofs.Graphics.FlagNames
import Scanout.Proofs.Graphics.FlagSets
import Scanout.Proofs.Handles.Custody
import Scanout.Proofs.Handles.Fleet
import Scanout.Proofs.Handles.Turnover
import Scanout.Proofs.Headless.Bindings
import Scanout.Proofs.Headless.Frames
import Scanout.Proofs.Headless.Service
import Scanout.Proofs.Headless.SurfaceLock
import Scanout.Proofs.Input.Fallback
import Scanout.Proofs.Json.BreakingOff
import Scanout.Proofs.Json.Contents
import Scanout.Proofs.Json.EndsAlike
import Scanout.Proofs.Json.Extension
import Scanout.Proofs.Json.Faithful
import Scanout.Proofs.Json.Faults
import Scanout.Proofs.Json.Forms
import Scanout.Proofs.Json.Grammar
import Scanout.Proofs.Json.Integers
import Scanout.Proofs.Json.Lawful
import Scanout.Proofs.Json.Layouts
import Scanout.Proofs.Json.NumeralEnds
import Scanout.Proofs.Json.Numerals
import Scanout.Proofs.Json.Objects
import Scanout.Proofs.Json.Portable
import Scanout.Proofs.Json.Progress
import Scanout.Proofs.Json.Reaches
import Scanout.Proofs.Json.Records
import Scanout.Proofs.Json.Repeated
import Scanout.Proofs.Json.Skipping
import Scanout.Proofs.Json.Strings
import Scanout.Proofs.Json.Verdicts
import Scanout.Proofs.Json.WellFormed
import Scanout.Proofs.Machine.Paths
import Scanout.Proofs.Machine.Remarks
import Scanout.Proofs.Machine.Surroundings
import Scanout.Proofs.Native.Acts
import Scanout.Proofs.Native.Conversion
import Scanout.Proofs.Native.EglFunctions
import Scanout.Proofs.Platform.Reach
import Scanout.Proofs.Platform.Runs
import Scanout.Proofs.Slot.Records
import Scanout.Proofs.Slot.Refinement
import Scanout.Proofs.Text.ByteOrder
import Scanout.Proofs.Text.Words
import Scanout.Proofs.Transcript
import Scanout.Request
import Scanout.Slot
import Scanout.Text.Blank
import Scanout.Text.Hex
import Scanout.Text.Letters
import Scanout.Text.Lines
import Scanout.Text.Quoted
import Scanout.Text.Shown
import Scanout.Text.Terminal
