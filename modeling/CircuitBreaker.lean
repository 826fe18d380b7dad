import CircuitBreaker.Word
import CircuitBreaker.Clock
import CircuitBreaker.Event
import CircuitBreaker.Event.Filter
import CircuitBreaker.Timer
import CircuitBreaker.Switch
import CircuitBreaker.Switch.Protection
import CircuitBreaker.Mains
import CircuitBreaker.Meter
import CircuitBreaker.Detached
import CircuitBreaker.Meter.Calibration
import CircuitBreaker.Meter.Rms
import CircuitBreaker.Meter.Channels
import CircuitBreaker.Meter.Thermistor
import CircuitBreaker.Meter.FrontEnd
import CircuitBreaker.Storage.Bytes
import CircuitBreaker.Storage.Checksum
import CircuitBreaker.Config.Error
import CircuitBreaker.Config.Record
import CircuitBreaker.Config.Curve
import CircuitBreaker.Config.Recovery
import CircuitBreaker.Config.Modulation
import CircuitBreaker.Storage
import CircuitBreaker.Storage.Frame
import CircuitBreaker.Storage.Ram
import CircuitBreaker.Monitor
import CircuitBreaker.Lifecycle.Phase
import CircuitBreaker.Modulation
import CircuitBreaker.Lifecycle
import CircuitBreaker.Telemetry
import CircuitBreaker.Input
import CircuitBreaker.Input.Queue
import CircuitBreaker.Breaker
import CircuitBreaker.Text.Blank
import CircuitBreaker.Text.Words
import CircuitBreaker.Text.Numeral
import CircuitBreaker.Console.Command
import CircuitBreaker.Console.Grammar
import CircuitBreaker.Console.Error
import CircuitBreaker.Console.LineBuffer
import CircuitBreaker.Console.Reply
import CircuitBreaker.Intent
import CircuitBreaker.Console.Response
import CircuitBreaker.Alternative
import CircuitBreaker.Bench.Switch
import CircuitBreaker.Bench.Sources
import CircuitBreaker.Bench.Memory
import CircuitBreaker.Bench.Unplugged
import CircuitBreaker.Bench.Trial
import CircuitBreaker.Text.Lines
import CircuitBreaker.Emulator.Switch
import CircuitBreaker.Emulator.Mains
import CircuitBreaker.Emulator.Meter
import CircuitBreaker.Emulator.Command
import CircuitBreaker.Emulator.Transcript
import CircuitBreaker.Emulator.Session
import CircuitBreaker.Emulator.Capture
import CircuitBreaker.Emulator.Terminal
import CircuitBreaker.Main
import CircuitBreaker.Board.Published
import CircuitBreaker.Board.PowerStage
import CircuitBreaker.Board.Flash
import CircuitBreaker.Board.Panel
import CircuitBreaker.Board.Sampler
import CircuitBreaker.Board.CrossingWatch
import CircuitBreaker.Board.Controller
import CircuitBreaker.Board.Serial
import CircuitBreaker.Board
import CircuitBreaker.Bench.Rig
import CircuitBreaker.Named
import CircuitBreaker.Stepper
import CircuitBreaker.Config.Settings
import CircuitBreaker.Board.Shared
import CircuitBreaker.Proofs.Lifecycle
import CircuitBreaker.Proofs.Monitor
import CircuitBreaker.Proofs.Breaker
import CircuitBreaker.Proofs.Run
import CircuitBreaker.Proofs.Schedule
import CircuitBreaker.Proofs.Armed
import CircuitBreaker.Proofs.Intents
import CircuitBreaker.Proofs.Journal
import CircuitBreaker.Proofs.OpenWins
import CircuitBreaker.Proofs.Released
import CircuitBreaker.Proofs.RecoveryBound
import CircuitBreaker.Proofs.Applied
import CircuitBreaker.Proofs.Commands
import CircuitBreaker.Proofs.Crossings
import CircuitBreaker.Proofs.Announcements
import CircuitBreaker.Proofs.LifecycleRun
import CircuitBreaker.Proofs.Ledger
import CircuitBreaker.Proofs.Tracking
import CircuitBreaker.Proofs.Sessions
import CircuitBreaker.Proofs.Execute
import CircuitBreaker.Proofs.Replenishment
import CircuitBreaker.Proofs.Expiry
import CircuitBreaker.Proofs.Deadlines
import CircuitBreaker.Proofs.Disabling
import CircuitBreaker.Proofs.Stranding
import CircuitBreaker.Proofs.Turns
import CircuitBreaker.Proofs.EdgeCause
import CircuitBreaker.Proofs.Tardy
import CircuitBreaker.Proofs.TimerPhases
import CircuitBreaker.Proofs.Polling
import CircuitBreaker.Proofs.Records
import CircuitBreaker.Proofs.FramedStorage
import CircuitBreaker.Proofs.Restart
import CircuitBreaker.Proofs.Replay
import CircuitBreaker.Proofs.Refusal
import CircuitBreaker.Proofs.VirtualTime
import CircuitBreaker.Proofs.TripCondition
import CircuitBreaker.Proofs.LineFraming
import CircuitBreaker.Proofs.Numerals
import CircuitBreaker.Proofs.Words
import CircuitBreaker.Proofs.Grammar
import CircuitBreaker.Proofs.Hearing
import CircuitBreaker.Proofs.Redriven
import CircuitBreaker.Proofs.TripOrder
import CircuitBreaker.Proofs.Waiting
import CircuitBreaker.Proofs.Cadence
import CircuitBreaker.Proofs.Detection
import CircuitBreaker.Proofs.RecoveryWait
import CircuitBreaker.Proofs.ModulationPace
import CircuitBreaker.Proofs.ModulationCycle
import CircuitBreaker.Proofs.RoundTrip
import CircuitBreaker.Proofs.StoreWrites
import CircuitBreaker.Proofs.Corruption
import CircuitBreaker.Proofs.RmsWindows
import CircuitBreaker.Proofs.FrontEnd
import CircuitBreaker.Proofs.Actuation
import CircuitBreaker.Proofs.Unstarted
import CircuitBreaker.Proofs.NewestRecords
import CircuitBreaker.Proofs.SelfTest
import CircuitBreaker.Proofs.ReplyLength
