import RemoteSmartcard.InteractionProgram
import RemoteSmartcard.StepRun
import RemoteSmartcard.AsyncChannel
import RemoteSmartcard.TcpStream
import RemoteSmartcard.Server
import RemoteSmartcard.ChannelOwnership
import RemoteSmartcard.RequestDiscipline
import RemoteSmartcard.RequestGrammar
import RemoteSmartcard.CardConnection
import RemoteSmartcard.GrpcClient
import RemoteSmartcard.CardSession
import RemoteSmartcard.Backoff
import RemoteSmartcard.EndToEnd
import RemoteSmartcard.CardProtocol
import RemoteSmartcard.Relay
import RemoteSmartcard.PowerCycle
import RemoteSmartcard.VpcdClients
import RemoteSmartcard.PendingTable
import RemoteSmartcard.Release
import RemoteSmartcard.SlowClient
import RemoteSmartcard.ClosedSession
import RemoteSmartcard.SoleDriver
import RemoteSmartcard.System
import RemoteSmartcard.IssueOrder
import RemoteSmartcard.CommandDelivery
import RemoteSmartcard.AtrCache
import RemoteSmartcard.SessionIsolation
import RemoteSmartcard.SessionLifetime
import RemoteSmartcard.ResponsePaths
import RemoteSmartcard.StatusWord
import RemoteSmartcard.FailedSend
import RemoteSmartcard.CardRecovery
import RemoteSmartcard.LinkErrors
import RemoteSmartcard.SessionCleanup
import RemoteSmartcard.ClientConfig
import RemoteSmartcard.Text
import RemoteSmartcard.VpcdTestTool
import RemoteSmartcard.ReconnectDelays
import RemoteSmartcard.ParseDuration
import RemoteSmartcard.Tls
import RemoteSmartcard.ClientStartup
import RemoteSmartcard.ServerStartup
import RemoteSmartcard.TlsOptions
import RemoteSmartcard.ProtocolTrace
import RemoteSmartcard.CommandOrigin
import RemoteSmartcard.AnswerOrigin
import RemoteSmartcard.CardHandles
import RemoteSmartcard.ConnectRetry
import RemoteSmartcard.LinkProgress
import RemoteSmartcard.ClientRpc
import RemoteSmartcard.RunConnection
import RemoteSmartcard.SerialCard
import RemoteSmartcard.SessionDirectory
import RemoteSmartcard.VpcdPacing
import RemoteSmartcard.RequestCost
import RemoteSmartcard.VpcdTestResponses
import RemoteSmartcard.AtrReads
