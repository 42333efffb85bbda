import Dlt.Daemon.AppReceivers
import Dlt.Daemon.MalformedMessages
import Dlt.Daemon.LevelsRange
import Dlt.Daemon.LevelsEnforced
import Dlt.Daemon.LevelsAgreement
import Dlt.Daemon.SendReturns
import Dlt.Gateway.ConnectStatus
import Dlt.Client.LogInfoFilled
import Dlt.Daemon.LevelsMatching
import Dlt.User.OfflineFilesContent
import Dlt.Logstorage.Selection
import Dlt.Logstorage.CacheRuns
import Dlt.Logstorage.FileRecords
import Dlt.Daemon.StorageLevelsRuns
import Dlt.Daemon.EventHandlerRuns
import Dlt.User.FileTransferComplete
import Dlt.Console.SortByTimestampComplete
import Dlt.Shared.ConfigFileRoundTrip
import Dlt.Log.EarlyMessagesDelivered
import Dlt.Inbox.CheckUserMessageRuns
import Dlt.Control.InjectionRequested
import Dlt.Console.ControlAnswersRuns
import Dlt.Daemon.RegistrationFailure
import Dlt.User.SendLogTruth
import Dlt.Delivery.Room
import Dlt.Encoder.TruncatedUtf8
import Dlt.User.RegisterApp
import Dlt.User.NetworkTraceSize
import Dlt.EnvLevels.Malformed
import Dlt.File.RawStream
import Dlt.File.QuickParsingAgrees
import Dlt.Gateway.Intervals
import Dlt.Log.LoggerLevels
import Dlt.Logstorage.CacheBudget
import Dlt.Control.LocalOrForwarded
import Dlt.Log.ViewLogged
import Dlt.Shared.OfflineTraceTruth
import Dlt.Logstorage.SizedCache
import Dlt.Logstorage.SyncFailures
import Dlt.Logstorage.FilterNames
import Dlt.Logstorage.KeyRoundTrip
import Dlt.Payload.HexRoundTrip
import Dlt.Payload.TextAgrees
import Dlt.Shared.InterruptedReceives
