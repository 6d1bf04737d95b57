import ButtonGateway.Address
import ButtonGateway.Broker.Client
import ButtonGateway.Broker.Link
import ButtonGateway.Broker.Location
import ButtonGateway.Broker.Packet
import ButtonGateway.Button
import ButtonGateway.Calendar
import ButtonGateway.ClickFilter
import ButtonGateway.Console.Line
import ButtonGateway.Console.Session
import ButtonGateway.Daemon.Command
import ButtonGateway.Daemon.Event
import ButtonGateway.Daemon.Event.Description
import ButtonGateway.Daemon.Vocabulary
import ButtonGateway.Enumeration
import ButtonGateway.Gateway
import ButtonGateway.Gesture
import ButtonGateway.Gesture.Tracker
import ButtonGateway.Invocation
import ButtonGateway.Main
import ButtonGateway.Notice
import ButtonGateway.Notice.OfEvent
import ButtonGateway.Proofs.Address
import ButtonGateway.Proofs.Broker.Acknowledgement
import ButtonGateway.Proofs.Broker.Link
import ButtonGateway.Proofs.Broker.Location
import ButtonGateway.Proofs.Broker.Reports
import ButtonGateway.Proofs.Connection.Handing
import ButtonGateway.Proofs.Connection.Hearing
import ButtonGateway.Proofs.Connection.Loss
import ButtonGateway.Proofs.Connection.Standing
import ButtonGateway.Proofs.Console.Argument
import ButtonGateway.Proofs.Console.Line
import ButtonGateway.Proofs.Console.Session
import ButtonGateway.Proofs.Daemon.Command
import ButtonGateway.Proofs.Daemon.Event
import ButtonGateway.Proofs.Daemon.Grammar
import ButtonGateway.Proofs.Gesture.Agreement
import ButtonGateway.Proofs.Gesture.History
import ButtonGateway.Proofs.Gesture.Holding
import ButtonGateway.Proofs.Gesture.Observation
import ButtonGateway.Proofs.Notice.Meaning
import ButtonGateway.Proofs.Notice.Record
import ButtonGateway.Proofs.Notice.Translation
import ButtonGateway.Proofs.Reception
import ButtonGateway.Proofs.Reception.Rhythm
import ButtonGateway.Proofs.Routing
import ButtonGateway.Proofs.Session.Arrivals
import ButtonGateway.Proofs.Session.Course
import ButtonGateway.Proofs.Session.Delivery
import ButtonGateway.Proofs.Session.Epochs
import ButtonGateway.Proofs.Session.Holds
import ButtonGateway.Proofs.Session.Log
import ButtonGateway.Proofs.Session.Opening
import ButtonGateway.Proofs.Session.Overdue
import ButtonGateway.Proofs.Session.Performed
import ButtonGateway.Proofs.Session.Sendings
import ButtonGateway.Proofs.Settings.Buttons
import ButtonGateway.Proofs.Settings.Rules
import ButtonGateway.Proofs.Settings.Topics
import ButtonGateway.Proofs.Slot
import ButtonGateway.Proofs.Supervision.Attempts
import ButtonGateway.Proofs.Supervision.Isolation
import ButtonGateway.Proofs.Supervision.Pauses
import ButtonGateway.Proofs.Supervision.Run
import ButtonGateway.Proofs.Text.Blank
import ButtonGateway.Proofs.Text.Boundary
import ButtonGateway.Proofs.Text.Decimal
import ButtonGateway.Proofs.Text.Hex
import ButtonGateway.Proofs.Text.Split
import ButtonGateway.Proofs.Text.Utf8
import ButtonGateway.Proofs.Wire.Cursor
import ButtonGateway.Proofs.Wire.Extent
import ButtonGateway.Proofs.Wire.Field
import ButtonGateway.Proofs.Wire.Frame
import ButtonGateway.Proofs.Wire.Intake
import ButtonGateway.Proofs.Wire.Layout
import ButtonGateway.Proofs.Wire.TextField
import ButtonGateway.Proofs.Wire.Verdict
import ButtonGateway.Reception
import ButtonGateway.Service.BrokerLine
import ButtonGateway.Service.Stream
import ButtonGateway.Service.Supervision
import ButtonGateway.Service.Terminal
import ButtonGateway.Session
import ButtonGateway.Session.Inbox
import ButtonGateway.Session.Rehearsal
import ButtonGateway.Session.Running
import ButtonGateway.Session.Station
import ButtonGateway.Settings
import ButtonGateway.Settings.Document
import ButtonGateway.Settings.File
import ButtonGateway.Settings.Validation
import ButtonGateway.Supervision
import ButtonGateway.Text.Numeral
import ButtonGateway.Text.Split
import ButtonGateway.Text.Utf8
import ButtonGateway.Toml.Document
import ButtonGateway.Toml.Number
import ButtonGateway.Toml.Scan
import ButtonGateway.Toml.Text
import ButtonGateway.Toml.Tree
import ButtonGateway.Toml.Value
import ButtonGateway.Wire.Bytes
import ButtonGateway.Wire.Field
import ButtonGateway.Wire.Frame
import ButtonGateway.Wire.Layout
import ButtonGateway.Wire.Packet
