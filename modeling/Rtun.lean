import Rtun.Framing
import Rtun.Seeding
import Rtun.ConcurrentEdits
import Rtun.Http
import Rtun.Startup
import Rtun.Serve.Sessions
import Rtun.Serve.Pump
import Rtun.Serve.Soundness
import Rtun.Serve.Authorised
import Rtun.Serve.Answering
import Rtun.Serve.Eviction
import Rtun.Entries
import Rtun.TwoProcesses
import Rtun.Connect.Listeners
import Rtun.Connect.Sessions
import Rtun.Connect.Forwarders
import Rtun.Connect.Soundness
import Rtun.Tunnel
import Rtun.ForwardRouting
import Rtun.ReplyIsolation
import Rtun.Serve.LivePeers
import Rtun.Serve.Teardown
import Rtun.Connect.Reconciliation
import Rtun.Serve.GrantedSessions
import Rtun.Connect.BindReports
import Rtun.Access
import Rtun.Connect.ReplyRoutes
import Rtun.Connect.Edits
import Rtun.Connect.Dialing
import Rtun.Connect.KeptListeners
import Rtun.Connect.Serving
import Rtun.Connect.OwnBinds
import Rtun.KeyedList
import Rtun.MapOperations
import Rtun.HandlerMaps
import Rtun.Rebuilding
import Rtun.TokenGate
import Rtun.Connect.SessionTable
import Rtun.Connect.IdReuse
import Rtun.PathReports
import Rtun.ConfigFile
import Rtun.Tcp.Withdrawal
import Rtun.Tcp.Progress
import Rtun.AtMostOnce
import Rtun.Serve.IdleSessions
import Rtun.Connect.Retrying
import Rtun.Identity
import Rtun.AdminToken
import Rtun.Provenance
import Rtun.Refusal
import Rtun.Flags
import Rtun.Recovery
