import GuiExplorer.Action.Dispatch
import GuiExplorer.CommandLine.Program
import GuiExplorer.Coverage.Monitor
import GuiExplorer.Device.Machine
import GuiExplorer.Exploration.Explorer
import GuiExplorer.Main
import GuiExplorer.Proofs.Device.Exchange
import GuiExplorer.Proofs.Engine.Decisions
import GuiExplorer.Proofs.Store.Counters
import GuiExplorer.Rehearsal.Host
import GuiExplorer.Rehearsal.Report
import GuiExplorer.Rehearsal.Stage
import GuiExplorer.Settings.EnvFile
import GuiExplorer.Settings.Overrides
import GuiExplorer.Settings.Setup
import GuiExplorer.Store.Snapshot
import GuiExplorer.Proofs.Exploration.Turns
import GuiExplorer.Proofs.Exploration.Alternation
import GuiExplorer.Proofs.Exploration.SavedModel
import GuiExplorer.Proofs.Playback.Accounting
import GuiExplorer.Proofs.Device.Answering
import GuiExplorer.Proofs.Engine.Targets
import GuiExplorer.Proofs.Playback.Fidelity
import GuiExplorer.Proofs.Exploration.Replay
import GuiExplorer.Proofs.Engine.Arbitration
import GuiExplorer.Proofs.Engine.Fairness
import GuiExplorer.Proofs.Wire.Message
import GuiExplorer.Proofs.Device.Lifecycle
import GuiExplorer.Proofs.Wire.Stream
import GuiExplorer.Proofs.Device.Correspondence
import GuiExplorer.Proofs.Exploration.Stopping
import GuiExplorer.Proofs.Exploration.Aiming
import GuiExplorer.Proofs.Exploration.Termination
import GuiExplorer.Proofs.Engine.Finality
import GuiExplorer.Proofs.Store.Sharing
import GuiExplorer.Proofs.Store.Saving
import GuiExplorer.Proofs.Playback.Search
import GuiExplorer.Proofs.Playback.Backs
import GuiExplorer.Proofs.Playback.Partition
import GuiExplorer.Proofs.Playback.ReplayedShare
import GuiExplorer.Proofs.Engine.DecisionRule
import GuiExplorer.Proofs.Identity.Schedules
import GuiExplorer.Proofs.Engine.Precedence
import GuiExplorer.Proofs.Engine.Visibility
import GuiExplorer.Proofs.Engine.Recounting
import GuiExplorer.Proofs.Device.Confirmation
import GuiExplorer.Proofs.Coverage.Fraction
import GuiExplorer.Proofs.Identity.Region
import GuiExplorer.Proofs.Settings.Layers
import GuiExplorer.Proofs.Device.Supervision
import GuiExplorer.Proofs.Engine.Granting
import GuiExplorer.Proofs.Identity.Configuration
import GuiExplorer.Proofs.Device.Reaping
import GuiExplorer.Proofs.CommandLine.Access
import GuiExplorer.Proofs.Coverage.Coverable
import GuiExplorer.Proofs.Device.Rendering
