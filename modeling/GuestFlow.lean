import GuestFlow.Main
import GuestFlow.Engine.Listener
import GuestFlow.Service.Handler
import GuestFlow.Store.Sessions
import GuestFlow.Proofs.Fallible
import GuestFlow.Proofs.Graph
import GuestFlow.Proofs.Record
import GuestFlow.Proofs.Sorting
import GuestFlow.Proofs.Metadata
import GuestFlow.Proofs.Reporting
import GuestFlow.Proofs.Number.Nearest
import GuestFlow.Proofs.Number.Rounding
import GuestFlow.Proofs.Number.Digits
import GuestFlow.Proofs.Number.Shortest
import GuestFlow.Proofs.Value.Text
import GuestFlow.Proofs.Value.Sound
import GuestFlow.Proofs.Value.Failure
import GuestFlow.Proofs.Value.Writing
import GuestFlow.Proofs.Document.Schema
import GuestFlow.Proofs.Document.Grammar
import GuestFlow.Proofs.Document.Naming
import GuestFlow.Proofs.Document.Parts
import GuestFlow.Proofs.Document.RoundTrip
import GuestFlow.Proofs.Document.Edges
import GuestFlow.Proofs.Document.Canvas
import GuestFlow.Proofs.Document.Failure
import GuestFlow.Proofs.Document.Binding
import GuestFlow.Proofs.Workflow.Checking
import GuestFlow.Proofs.Workflow.Flaws
import GuestFlow.Proofs.Workflow.Deciding
import GuestFlow.Proofs.Workflow.Comparing
import GuestFlow.Proofs.Machine.Step
import GuestFlow.Proofs.Machine.Walk
import GuestFlow.Proofs.Machine.Undo
import GuestFlow.Proofs.Machine.Token
import GuestFlow.Proofs.Machine.Log
import GuestFlow.Proofs.Machine.Strict
import GuestFlow.Proofs.Machine.Later
import GuestFlow.Proofs.Engine.Rest
import GuestFlow.Proofs.Engine.Refusal
import GuestFlow.Proofs.Engine.Listening
import GuestFlow.Proofs.Engine.Corruption
import GuestFlow.Proofs.Runner.Driving
import GuestFlow.Proofs.Runner.Token
import GuestFlow.Proofs.Runner.Settling
import GuestFlow.Proofs.Runner.Return
import GuestFlow.Proofs.Runner.Stalling
import GuestFlow.Proofs.Runner.Translation
import GuestFlow.Proofs.Runner.Strict
import GuestFlow.Proofs.Runner.Equipment
import GuestFlow.Proofs.Runner.Renewal
import GuestFlow.Proofs.Runner.Agenda
import GuestFlow.Proofs.Runner.Rendering
import GuestFlow.Proofs.Runner.Turns
import GuestFlow.Proofs.Runner.Liveness
import GuestFlow.Proofs.Runner.Capping
import GuestFlow.Proofs.Runner.Finishing
import GuestFlow.Proofs.Store.Shelf
import GuestFlow.Proofs.Store.Loading
import GuestFlow.Proofs.Service.Filing
import GuestFlow.Proofs.Service.Isolation
import GuestFlow.Proofs.Json.Reading
import GuestFlow.Proofs.Json.Spelling
import GuestFlow.Proofs.Json.Writing
import GuestFlow.Proofs.Service.Answering
import GuestFlow.Proofs.Service.Registering
import GuestFlow.Proofs.Service.Hosting
import GuestFlow.Proofs.Service.Completing
import GuestFlow.Proofs.Script.Syntax
import GuestFlow.Proofs.Script.Figure
import GuestFlow.Proofs.Script.ByJson
import GuestFlow.Proofs.Number.Text
import GuestFlow.Proofs.Script.Scalar
import GuestFlow.Proofs.Script.Tokens
import GuestFlow.Proofs.Script.Node
import GuestFlow.Proofs.Yaml.Meaning
import GuestFlow.Proofs.Yaml.Failure
import GuestFlow.Proofs.Script.File
import GuestFlow.Proofs.Console.Assigning
import GuestFlow.Proofs.Console.Inspecting
