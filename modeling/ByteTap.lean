import ByteTap.Address
import ByteTap.Buffer
import ByteTap.Bytes
import ByteTap.Consumer
import ByteTap.Context
import ByteTap.Document
import ByteTap.Document.Decode
import ByteTap.Document.Inline
import ByteTap.Document.Json
import ByteTap.Document.Layer
import ByteTap.Document.Toml
import ByteTap.Document.Toml.Scalar
import ByteTap.Document.Toml.Tree
import ByteTap.Document.Wrapped
import ByteTap.Engine
import ByteTap.Engine.Call
import ByteTap.Engine.Construction
import ByteTap.Engine.Event
import ByteTap.Engine.Schedule
import ByteTap.Engine.Stage
import ByteTap.Engine.Worker
import ByteTap.Fault
import ByteTap.FileTree
import ByteTap.Io
import ByteTap.Lifecycle
import ByteTap.Main
import ByteTap.Monitor.CommandLine
import ByteTap.Monitor.Configuration
import ByteTap.Monitor.Load
import ByteTap.Monitor.Program
import ByteTap.Monitor.Report
import ByteTap.Monitor.Run
import ByteTap.Monitor.Watch
import ByteTap.Number.Binary64
import ByteTap.Number.Word
import ByteTap.Policy
import ByteTap.Settings
import ByteTap.Text.Blank
import ByteTap.Text.Parts
import ByteTap.Text.Quoted
import ByteTap.Text.Terminal
import ByteTap.Text.Visible
import ByteTap.Transport
import ByteTap.Transport.Line
import ByteTap.Transport.Script
import ByteTap.Transport.Stream
import ByteTap.Proofs.Buffer
import ByteTap.Proofs.Outcome
import ByteTap.Proofs.Policy
import ByteTap.Proofs.Document.Word
import ByteTap.Proofs.Document.Table
import ByteTap.Proofs.Document.Reading
import ByteTap.Proofs.Document.Record
import ByteTap.Proofs.Document.Overlay
import ByteTap.Proofs.FileTree
import ByteTap.Proofs.Settings
import ByteTap.Proofs.Engine.AfterStop
import ByteTap.Proofs.Engine.CallStep
import ByteTap.Proofs.Engine.Reachable
import ByteTap.Proofs.Engine.Construction
import ByteTap.Proofs.Engine.Ledger
import ByteTap.Proofs.Engine.Stream
import ByteTap.Proofs.Engine.Lifecycle
import ByteTap.Proofs.Engine.Shutdown
import ByteTap.Proofs.Engine.Stall
import ByteTap.Proofs.Engine.Wake
import ByteTap.Proofs.Engine.FullBuffer
import ByteTap.Proofs.Engine.Policies
import ByteTap.Proofs.Engine.Release
import ByteTap.Proofs.Engine.Reports
import ByteTap.Proofs.Engine.Counters
import ByteTap.Proofs.Engine.Wait
import ByteTap.Proofs.Engine.LateWait
import ByteTap.Proofs.Engine.Panic
import ByteTap.Proofs.Engine.Loss
import ByteTap.Proofs.Engine.EndOfStream
import ByteTap.Proofs.Transport.Line
import ByteTap.Proofs.Monitor.Session
import ByteTap.Proofs.Monitor.Report
import ByteTap.Proofs.Monitor.HangUp
import ByteTap.Proofs.Monitor.CommandLine
import ByteTap.Proofs.Monitor.Precedence
import ByteTap.Proofs.Monitor.Endpoint
import ByteTap.Proofs.Monitor.Spelling
import ByteTap.Proofs.Monitor.Discovery
import ByteTap.Proofs.Monitor.NamedFile
import ByteTap.Proofs.Monitor.Deadline
import ByteTap.Proofs.Engine.Settling
import ByteTap.Proofs.Engine.Observer
import ByteTap.Proofs.Engine.Noise
import ByteTap.Proofs.Engine.Backoff
import ByteTap.Proofs.Engine.Retry
import ByteTap.Proofs.Transport.Turns
