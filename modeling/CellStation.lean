import CellStation.Config.File
import CellStation.Keeper.Outgoing
import CellStation.Main
import CellStation.Mqtt.Outgoing
import CellStation.Radio.Modem
import CellStation.Serial.Port
import CellStation.Serial.Queued
import CellStation.Station
import CellStation.Text.Boundary
import CellStation.Proofs.Deframing
import CellStation.Proofs.Framing
import CellStation.Proofs.LineRecord
import CellStation.Proofs.RadioRuns
import CellStation.Proofs.ModemRuns
import CellStation.Proofs.OutboundStream
import CellStation.Proofs.InboundStream
import CellStation.Proofs.Recording
import CellStation.Proofs.LineLog
import CellStation.Proofs.BringUpSafety
import CellStation.Proofs.BringUpConvergence
import CellStation.Proofs.StationRuns
import CellStation.Proofs.TickBudget
import CellStation.Proofs.RadioIntake
import CellStation.Proofs.ScriptedRadio
import CellStation.Proofs.LiveSockets
import CellStation.Proofs.KeeperRuns
import CellStation.Proofs.HandedOutSockets
import CellStation.Proofs.SocketsInUse
import CellStation.Proofs.MonitorSteps
import CellStation.Proofs.SettingsModem
import CellStation.Proofs.ReadBack
import CellStation.Proofs.GoneSockets
import CellStation.Proofs.QueryFacts
import CellStation.Proofs.MonitorRuns
import CellStation.Proofs.NetworkState
import CellStation.Proofs.SocketCreation
import CellStation.Proofs.IdentityFacts
import CellStation.Proofs.PollSchedule
import CellStation.Proofs.AdapterRuns
import CellStation.Proofs.EngineBytes
import CellStation.Proofs.FailedSends
import CellStation.Proofs.BindingEpisodes
import CellStation.Proofs.FrameLayouts
import CellStation.Proofs.PendingWrites
import CellStation.Proofs.DueSlots
import CellStation.Proofs.Resynchronisation
import CellStation.Proofs.Acknowledgements
import CellStation.Proofs.BringUpRetries
import CellStation.Proofs.LostNetwork
import CellStation.Proofs.NoiseAndDamage
import CellStation.Proofs.WriterLimit
import CellStation.Proofs.ReceiveBuffer
import CellStation.Proofs.DrainedInput
import CellStation.Proofs.SendBudget
import CellStation.Proofs.Replies
import CellStation.Proofs.PhaseAndSocket
import CellStation.Proofs.ConfigChecks
import CellStation.Proofs.Deadlines
import CellStation.Proofs.JsonText
import CellStation.Proofs.ConfigSpelling
import CellStation.Proofs.BoundedLists
import CellStation.Proofs.TextCuts
import CellStation.Proofs.LossyText
