import HomeCore.Engine.HeldTriggersProofs
import HomeCore.Devices.WritersProofs
import HomeCore.Devices.ParentProofs
import HomeCore.Devices.RoomReferencesProofs
import HomeCore.Scheduling.CronWindows
import HomeCore.Accounts.ExchangeProofs
import HomeCore.Accounts.SweepProofs
import HomeCore.Accounts.ApiKeyHandlersProofs
import HomeCore.Accounts.AccountRequestsProofs
import HomeCore.Accounts.PinSessions
import HomeCore.Runtimes.DenialProofs
import HomeCore.Runtimes.DecisionsProofs
import HomeCore.Rules.RuleFilesProofs
import HomeCore.Rules.Repointing
import HomeCore.Thermostat.ReadingProofs
import HomeCore.Streaming.StreamsProofs
import HomeCore.Plugins.StopProofs
import HomeCore.Engine.TurnQueue
import HomeCore.Engine.StartUp
import HomeCore.Streaming.EventStreamProofs
import HomeCore.Streaming.StreamAuthority
import HomeCore.Backup.BuildZipProofs
import HomeCore.Rules.NameResolutionProofs
import HomeCore.Engine.IfChecks
import HomeCore.Devices.PartialReportProofs
import HomeCore.Scheduling.AlertsActiveFor
import HomeCore.Alerts.HeldProofs
import HomeCore.Timers.CycleProofs
import HomeCore.Glue.SourcesProofs
import HomeCore.Accounts.PossessionProofs
import HomeCore.Accounts.TokenChainsProofs
import HomeCore.Calendars.DurationsProofs
import HomeCore.Calendars.CalendarActiveProofs
import HomeCore.Calendars.OccurrencesProofs
import HomeCore.Timers.ReconstructionProofs
import HomeCore.Glue.Schedule
import HomeCore.Engine.MatchingProofs
import HomeCore.Scheduling.Periods
import HomeCore.Engine.WaitsProofs
import HomeCore.TopicMap.FieldMaps
import HomeCore.TopicMap.RenderingProofs
import HomeCore.Thermostat.RestartsProofs
import HomeCore.Devices.Downsampling
import HomeCore.Rules.Variables
import HomeCore.Lutron.Protocol
import HomeCore.Alerts.BatteriesProofs
import HomeCore.Config.RowsProofs
import HomeCore.Hosting.ReconcileProofs
import HomeCore.Hosting.Supervise
import HomeCore.Streaming.PluginStreams
