import RelayRoster.Main
import RelayRoster.Daemon
import RelayRoster.Event.Filter
import RelayRoster.File.Watch
import RelayRoster.Broadcast
import RelayRoster.Monitor
import RelayRoster.Reload
import RelayRoster.Roster.Align
import RelayRoster.Roster.Sweep
import RelayRoster.Event.Basic
import RelayRoster.Settings.Load
import RelayRoster.Toml.Document
import RelayRoster.Decimal.Binary64
import RelayRoster.Address.HostPort
import RelayRoster.Address.Literal
import RelayRoster.Text.Blank
import RelayRoster.Text.Quoted
import RelayRoster.Proofs.Book
import RelayRoster.Proofs.ByteOrder
import RelayRoster.Proofs.Alignment
import RelayRoster.Proofs.Selection
import RelayRoster.Proofs.Refinement
import RelayRoster.Proofs.Hysteresis
import RelayRoster.Proofs.RelayHealth
import RelayRoster.Proofs.RelayRun
import RelayRoster.Proofs.Interleaving
import RelayRoster.Proofs.Gauges
import RelayRoster.Proofs.Faults
import RelayRoster.Proofs.Completion
import RelayRoster.Proofs.Starvation
import RelayRoster.Proofs.TomlText
import RelayRoster.Proofs.TomlNumber
import RelayRoster.Proofs.TomlValue
import RelayRoster.Proofs.TomlLines
import RelayRoster.Proofs.TomlGrowth
import RelayRoster.Proofs.HalfWritten
import RelayRoster.Proofs.Pace
import RelayRoster.Proofs.Monitoring
import RelayRoster.Proofs.StartUp
import RelayRoster.Proofs.HotReload
import RelayRoster.Proofs.Provenance
import RelayRoster.Proofs.Decoding
import RelayRoster.Proofs.Strokes
import RelayRoster.Proofs.Counters
import RelayRoster.Proofs.Tally
import RelayRoster.Proofs.Replay
import RelayRoster.Proofs.Clients
import RelayRoster.Proofs.History
import RelayRoster.Proofs.Turns
import RelayRoster.Proofs.Dialling
import RelayRoster.Proofs.Fairness
import RelayRoster.Proofs.HostPort
import RelayRoster.Proofs.Literal
import RelayRoster.Proofs.Agreement
import RelayRoster.Proofs.Sweeps
import RelayRoster.Proofs.Polling
import RelayRoster.Proofs.Thresholds
import RelayRoster.Proofs.Patience
