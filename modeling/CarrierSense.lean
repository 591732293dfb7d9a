import CarrierSense.Clock
import CarrierSense.Counters
import CarrierSense.Decimal.Binary
import CarrierSense.Decimal.Layout
import CarrierSense.Decimal.Shortest
import CarrierSense.Experiment.Basic
import CarrierSense.Experiment.Load
import CarrierSense.Experiment.Record
import CarrierSense.Experiment.Run
import CarrierSense.Frame
import CarrierSense.Halt
import CarrierSense.Handle
import CarrierSense.Json.Basic
import CarrierSense.Json.Numeral
import CarrierSense.Json.Reader
import CarrierSense.Json.Record
import CarrierSense.Json.Token
import CarrierSense.Json.Writer
import CarrierSense.Medium
import CarrierSense.Network.Access
import CarrierSense.Network.Basic
import CarrierSense.Network.Report
import CarrierSense.Network.Run
import CarrierSense.NetworkError
import CarrierSense.Point
import CarrierSense.Radio.Basic
import CarrierSense.Radio.Machine
import CarrierSense.Random.Draw
import CarrierSense.Random.Stream
import CarrierSense.Random.Ziggurat
import CarrierSense.Scalar
import CarrierSense.Scene.Basic
import CarrierSense.Scene.Reader
import CarrierSense.Scheduler
import CarrierSense.Status
import CarrierSense.Storage.Basic
import CarrierSense.Storage.Path
import CarrierSense.Storage.Tree
import CarrierSense.Sweep.Basic
import CarrierSense.Sweep.Periods
import CarrierSense.Sweep.Reader
import CarrierSense.Timing.Basic
import CarrierSense.Timing.Reader
import CarrierSense.Toml.Basic
import CarrierSense.Toml.Reader
import CarrierSense.Toml.Scalar
import CarrierSense.Topology
import CarrierSense.Trace
import CarrierSense.Variate.Basic
import CarrierSense.Variate.Reader
import CarrierSense.Main
import CarrierSense.Proofs.Outcome
import CarrierSense.Proofs.Radio.Alarms
import CarrierSense.Proofs.Scheduler.Basic
import CarrierSense.Proofs.Radio.Sound
import CarrierSense.Proofs.Network.Coherent
import CarrierSense.Proofs.Network.Effects
import CarrierSense.Proofs.Network.Turns
import CarrierSense.Proofs.Network.Firing
import CarrierSense.Proofs.Network.History
import CarrierSense.Proofs.Network.Sound
import CarrierSense.Proofs.Network.Setup
import CarrierSense.Proofs.Network.Status
import CarrierSense.Proofs.Radio.Ether
import CarrierSense.Proofs.Network.Flights
import CarrierSense.Proofs.Network.Delivery
import CarrierSense.Proofs.Network.Reliable
import CarrierSense.Proofs.Network.Answers
import CarrierSense.Proofs.Network.Media
import CarrierSense.Proofs.Radio.Listening
import CarrierSense.Proofs.Network.Hearing
import CarrierSense.Proofs.Network.BusyPeriods
import CarrierSense.Proofs.Network.Enactment
import CarrierSense.Proofs.Network.Idle
import CarrierSense.Proofs.Network.Views
import CarrierSense.Proofs.Network.Exchange
import CarrierSense.Proofs.Scheduler.Ledger
import CarrierSense.Proofs.Radio.Countdown
import CarrierSense.Proofs.Network.Course
import CarrierSense.Proofs.Network.Contention
import CarrierSense.Proofs.Network.Priority
import CarrierSense.Proofs.Scheduler.Renumbered
import CarrierSense.Proofs.Radio.Handles
import CarrierSense.Proofs.Network.Twins
import CarrierSense.Proofs.Network.Lockstep
import CarrierSense.Proofs.Network.Isolation
import CarrierSense.Proofs.Network.Slots
import CarrierSense.Proofs.Network.Sources
import CarrierSense.Proofs.Network.Rest
import CarrierSense.Proofs.Radio.Bookings
import CarrierSense.Proofs.Network.Worth
import CarrierSense.Proofs.Network.Books
import CarrierSense.Proofs.Scheduler.FiringOrder
import CarrierSense.Proofs.Network.Ticks
import CarrierSense.Proofs.Network.Failures
import CarrierSense.Proofs.Radio.Window
import CarrierSense.Proofs.Network.Window
import CarrierSense.Proofs.Radio.Walk
import CarrierSense.Proofs.Network.Standing
import CarrierSense.Proofs.Network.Tracing
import CarrierSense.Proofs.Scene.Check
import CarrierSense.Proofs.Experiment.Draft
import CarrierSense.Proofs.Experiment.Setup
import CarrierSense.Proofs.Experiment.Runs
import CarrierSense.Proofs.Storage.Faultless
import CarrierSense.Proofs.Experiment.Sweep
import CarrierSense.Proofs.Radio.Unrest
import CarrierSense.Proofs.Network.Fuel
import CarrierSense.Proofs.Network.Unrest
import CarrierSense.Proofs.Network.Splitting
import CarrierSense.Proofs.Network.Handles
import CarrierSense.Proofs.Network.Routing
import CarrierSense.Proofs.Network.Addressing
import CarrierSense.Proofs.Network.Changes
import CarrierSense.Proofs.Network.Draws
import CarrierSense.Proofs.Network.Timetable
import CarrierSense.Proofs.Network.Schedule
import CarrierSense.Proofs.Radio.Horizon
import CarrierSense.Proofs.Network.Complete
import CarrierSense.Proofs.Network.Confined
import CarrierSense.Proofs.Network.Words
import CarrierSense.Proofs.Exact
import CarrierSense.Proofs.Sweep.Periods
import CarrierSense.Proofs.Topology.Joining
import CarrierSense.Proofs.Topology.Assembly
import CarrierSense.Proofs.Topology.Grid
import CarrierSense.Proofs.Radio.Overhearing
import CarrierSense.Proofs.Network.Joining
import CarrierSense.Proofs.Network.Footprint
import CarrierSense.Proofs.Network.Broadcasting
import CarrierSense.Proofs.Network.Locality
import CarrierSense.Proofs.Trace.Reading
