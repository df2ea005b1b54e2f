import SensorCape.Action
import SensorCape.Bench.Board
import SensorCape.Bench.Physical
import SensorCape.Bench.Rehearsal
import SensorCape.Bench.Replay
import SensorCape.Bench.Schedule
import SensorCape.Binary.Format
import SensorCape.Binary.Text
import SensorCape.CommandLine.Tree
import SensorCape.Daemon.LogFilter
import SensorCape.Daemon.Pattern
import SensorCape.Daemon.Sensors
import SensorCape.Daemon.Start
import SensorCape.Devices
import SensorCape.Dht.Line
import SensorCape.Dht.Reading
import SensorCape.Dht.Train
import SensorCape.Fault
import SensorCape.Gpio.Banks
import SensorCape.Gpio.Line
import SensorCape.Gpio.Register
import SensorCape.Kernel.Host
import SensorCape.Kernel.Node
import SensorCape.Kernel.Path
import SensorCape.Kernel.Request
import SensorCape.Main
import SensorCape.Outlets
import SensorCape.Pin
import SensorCape.Pin.Header
import SensorCape.Poll.Climate
import SensorCape.Poll.Modules
import SensorCape.Poll.Register
import SensorCape.Poll.Retry
import SensorCape.Poll.Supervision
import SensorCape.Proofs.Daemon.Attach
import SensorCape.Proofs.Dht.Answer
import SensorCape.Proofs.Dht.Bits
import SensorCape.Proofs.Dht.Calls
import SensorCape.Proofs.Dht.Corruption
import SensorCape.Proofs.Dht.Runs
import SensorCape.Proofs.Dht.Speed
import SensorCape.Proofs.Gpio.Isolation
import SensorCape.Proofs.Gpio.Sharing
import SensorCape.Proofs.Gpio.Table
import SensorCape.Proofs.Gpio.Turns
import SensorCape.Proofs.Gpio.Window
import SensorCape.Proofs.Monitor
import SensorCape.Proofs.Path
import SensorCape.Proofs.Pin.Names
import SensorCape.Proofs.Poll.Climate
import SensorCape.Proofs.Poll.Retry
import SensorCape.Proofs.Poll.Supervision
import SensorCape.Proofs.Ran
import SensorCape.Proofs.Register.Faultless
import SensorCape.Proofs.Register.Handles
import SensorCape.Proofs.Register.InForce
import SensorCape.Proofs.Register.Interleaving
import SensorCape.Proofs.Register.Neighbours
import SensorCape.Proofs.Register.Parking
import SensorCape.Proofs.Register.Polling
import SensorCape.Proofs.Register.Recorded
import SensorCape.Proofs.Register.Selection
import SensorCape.Proofs.Register.Tap
import SensorCape.Proofs.Register.Transfers
import SensorCape.Proofs.Register.Visits
import SensorCape.Proofs.Serial.Addressing
import SensorCape.Proofs.Serial.Bracket
import SensorCape.Proofs.Serial.Built
import SensorCape.Proofs.Serial.ChipSelect
import SensorCape.Proofs.Serial.FirstFault
import SensorCape.Proofs.Serial.Held
import SensorCape.Proofs.Serial.Phrases
import SensorCape.Proofs.Serial.Refusals
import SensorCape.Proofs.Serial.Remembered
import SensorCape.Proofs.Serial.Rest
import SensorCape.Proofs.Serial.RoundTrip
import SensorCape.Proofs.Serial.Session
import SensorCape.Proofs.Serial.Stages
import SensorCape.Proofs.Serial.Strobe
import SensorCape.Proofs.Serial.Work
import SensorCape.Proofs.Settings.Accepted
import SensorCape.Register.Bus
import SensorCape.Register.Handle
import SensorCape.Register.Route
import SensorCape.Serial.Bus
import SensorCape.Serial.Configuration
import SensorCape.Serial.Extension
import SensorCape.Serial.Frame
import SensorCape.Serial.Module
import SensorCape.Serial.Script
import SensorCape.Settings.Check
import SensorCape.Settings.Mismatch
import SensorCape.Settings.Reading
import SensorCape.Settings.Section
import SensorCape.Settings.Shape
import SensorCape.Telemetry
import SensorCape.Text.Blank
import SensorCape.Text.Letters
import SensorCape.Text.Quoted
import SensorCape.Text.Radix
import SensorCape.Text.Screened
import SensorCape.Text.Shapeless
import SensorCape.Toml.Document
import SensorCape.Toml.Moment
import SensorCape.Toml.Number
import SensorCape.Toml.Quoted
import SensorCape.Toml.Scan
import SensorCape.Toml.Statement
import SensorCape.Toml.Value
