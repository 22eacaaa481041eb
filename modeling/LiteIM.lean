import LiteIM.Foundation.BigEndian
import LiteIM.Foundation.Framing
import LiteIM.Foundation.PartialInverse
import LiteIM.Foundation.Program
import LiteIM.Foundation.Pool
import LiteIM.Base.Status
import LiteIM.Protocol.ByteOrder
import LiteIM.Protocol.Packet
import LiteIM.Protocol.FrameDecoder
import LiteIM.Protocol.Tlv
import LiteIM.Net.SessionTable
import LiteIM.Storage.Types
import LiteIM.Storage.Tables
import LiteIM.Storage.MySqlStorage
import LiteIM.Cache.Redis
import LiteIM.Service.SessionManager
import LiteIM.Service.SessionBinding
import LiteIM.Service.World
import LiteIM.Service.Evidence
import LiteIM.Service.Request
import LiteIM.Service.MessagePacketBuilder
import LiteIM.Service.ChatService
import LiteIM.Service.ChatDelivery
import LiteIM.Service.ChatRetry
import LiteIM.Service.GroupService
import LiteIM.Service.GroupDelivery
import LiteIM.Service.OnlineService
import LiteIM.Service.OnlineRecords
import LiteIM.Service.OnlineRaces
import LiteIM.Service.HeartbeatService
import LiteIM.Service.PrivateConversation
import LiteIM.Storage.Acknowledgement
import LiteIM.Foundation.Run
import LiteIM.Foundation.Sequence
import LiteIM.Service.OfflineMessageService
import LiteIM.Foundation.Triple
import LiteIM.Service.Mailbox
import LiteIM.Service.UnreadCounts
import LiteIM.Foundation.RowStore
import LiteIM.Storage.FriendDao
import LiteIM.Storage.FriendCalls
import LiteIM.Storage.FriendRequests
import LiteIM.Storage.FriendRaces
import LiteIM.Storage.CrossedRequests
import LiteIM.Service.HistoryService
import LiteIM.Service.HistoryAccess
import LiteIM.Service.HistoryPaging
import LiteIM.Concurrency.ThreadPool
import LiteIM.Service.MessageRouter
import LiteIM.Service.RouterRuns
import LiteIM.Service.RouterResponses
import LiteIM.Service.RouterProgress
import LiteIM.Foundation.Transition
import LiteIM.Net.EventLoop
import LiteIM.Net.LoopQuit
import LiteIM.Concurrency.PoolThreads
import LiteIM.Concurrency.PoolRuns
import LiteIM.Concurrency.PoolProgress
import LiteIM.Foundation.Outlet
import LiteIM.Net.Buffer
import LiteIM.Net.Session
import LiteIM.Net.SessionOutput
import LiteIM.Net.SessionInput
import LiteIM.Net.TcpServer
import LiteIM.Net.ServerStop
import LiteIM.Cache.LoginRateLimiter
import LiteIM.Storage.Directory
import LiteIM.Storage.FriendTables
import LiteIM.Service.MessagePages
import LiteIM.Service.AuthService
import LiteIM.Foundation.Quota
import LiteIM.Service.LoginLimit
import LiteIM.Service.FriendService
import LiteIM.Service.Accounts
import LiteIM.Service.ListResponses
import LiteIM.Service.Consent
import LiteIM.Protocol.TlvRoundTrip
import LiteIM.Foundation.Queue
import LiteIM.Net.BufferQueue
import LiteIM.Storage.OfflineAck
import LiteIM.Foundation.Drain
import LiteIM.Service.OfflineDrain
import LiteIM.Foundation.PriorityQueue
import LiteIM.Timer.TimerHeap
import LiteIM.ClientCli.ProtocolClient
import LiteIM.Timer.ActiveTimers
import LiteIM.ClientQt.TcpClient
import LiteIM.ClientQt.ChatController
import LiteIM.Foundation.Custody
import LiteIM.Storage.ConnectionPool
import LiteIM.Storage.PoolCustody
import LiteIM.Foundation.Transactions
import LiteIM.Storage.WriteCalls
import LiteIM.Storage.FailedWrites
import LiteIM.Storage.DeliveryStatus
import LiteIM.Foundation.Decimal
import LiteIM.Cache.OnlineStatusCache
import LiteIM.Cache.RedisKeys
import LiteIM.Base.Config
import LiteIM.Base.ConfigFiles
import LiteIM.ClientQt.MessageLists
import LiteIM.Net.Epoller
import LiteIM.ClientQt.ChatPage
import LiteIM.ClientQt.ServerStream
import LiteIM.Service.Permanence
