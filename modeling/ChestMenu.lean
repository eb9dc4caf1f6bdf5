import ChestMenu.Action.Printer
import ChestMenu.Condition.Printer
import ChestMenu.Console.Basic
import ChestMenu.Main
import ChestMenu.Proofs.Engine.Interleavings
import ChestMenu.Proofs.Engine.MainCalls
import ChestMenu.Proofs.Registry.History
import ChestMenu.Rehearsal
import ChestMenu.Schedule.Trial
import ChestMenu.Proofs.Action.Traces
import ChestMenu.Proofs.Engine.Calls
import ChestMenu.Proofs.Engine.Displays
import ChestMenu.Proofs.Engine.Echoes
import ChestMenu.Proofs.Engine.Heard
import ChestMenu.Proofs.Condition.Roundtrip
import ChestMenu.Proofs.Action.Roundtrip
import ChestMenu.Proofs.Engine.Resolution
import ChestMenu.Proofs.Menu.Findings
import ChestMenu.Proofs.Engine.Clicks
import ChestMenu.Proofs.Engine.Bystanders
import ChestMenu.Proofs.Engine.Queue
import ChestMenu.Proofs.Engine.Threads
import ChestMenu.Proofs.Engine.Deferral
import ChestMenu.Proofs.Engine.Openings
import ChestMenu.Proofs.Engine.Refusals
import ChestMenu.Proofs.Engine.Orders
import ChestMenu.Proofs.Schedule.Drains
import ChestMenu.Proofs.Menu.Slots
import ChestMenu.Proofs.Installation.Completions
import ChestMenu.Proofs.Installation.Enquiries
import ChestMenu.Proofs.Installation.Upkeep
import ChestMenu.Proofs.Console.Views
import ChestMenu.Proofs.Registry.Loading
import ChestMenu.Proofs.Menu.Requirements
import ChestMenu.Proofs.Menu.Isolation
import ChestMenu.Proofs.Menu.Rows
import ChestMenu.Proofs.Action.Spellings
import ChestMenu.Proofs.Engine.Activations
import ChestMenu.Proofs.Text.Colors
import ChestMenu.Proofs.Condition.Grants
import ChestMenu.Proofs.Placeholders
import ChestMenu.Proofs.Layout.Slots
import ChestMenu.Proofs.Condition.Parts
import ChestMenu.Proofs.Schedule.Ticks
import ChestMenu.Proofs.Registry.Rereading
