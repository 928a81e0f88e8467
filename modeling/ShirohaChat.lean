import ShirohaChat.Lib.Transition
import ShirohaChat.Lib.FiniteMap
import ShirohaChat.Lib.RowTable
import ShirohaChat.Shared.Packet
import ShirohaChat.Server.OfflineEnqueue
import ShirohaChat.Server.OfflineRuns
import ShirohaChat.Server.DeliveryRuns
import ShirohaChat.Server.MessageRuns
import ShirohaChat.Server.FriendRuns
import ShirohaChat.Server.GroupRuns
import ShirohaChat.Server.ManagementRuns
import ShirohaChat.Client.GroupSyncRuns
import ShirohaChat.Client.ReceiveRuns
import ShirohaChat.Server.OfflineRouting
import ShirohaChat.Server.RowAcknowledgement
import ShirohaChat.Lib.Joined
import ShirohaChat.Server.PrivateConversations
import ShirohaChat.Lib.TwinRuns
import ShirohaChat.Server.RequestKeys
import ShirohaChat.Server.ChatServer
import ShirohaChat.Server.MemberLoads
import ShirohaChat.Server.GroupMessageLoads
import ShirohaChat.Server.SendAcknowledgement
import ShirohaChat.Server.GroupChangesTold
import ShirohaChat.Client.SendStore
import ShirohaChat.Client.FriendRequests
import ShirohaChat.Server.AuthHandler
import ShirohaChat.Server.RequestActors
import ShirohaChat.Server.GroupAggregate
import ShirohaChat.Server.OfflineRoundTrip
import ShirohaChat.Client.MemberOpReplay
import ShirohaChat.Client.SessionListRuns
import ShirohaChat.Lib.Pages
import ShirohaChat.Client.ChatView
import ShirohaChat.Client.GroupStubs
import ShirohaChat.Client.Transactions
import ShirohaChat.Client.SoundStores
import ShirohaChat.Client.AppliedStores
import ShirohaChat.Lib.Scatter
import ShirohaChat.Server.GroupListScatter
import ShirohaChat.Client.Resending
import ShirohaChat.Server.OfflineRows
import ShirohaChat.Client.Authentication
import ShirohaChat.Client.AuthRetry
import ShirohaChat.Client.ListedSessions
import ShirohaChat.Lib.Decimals
import ShirohaChat.Server.ProtocolVersions
import ShirohaChat.Lib.EvictingCache
import ShirohaChat.Server.IdempotencyCache
import ShirohaChat.Shared.GroupInvariants
import ShirohaChat.Server.Notices
import ShirohaChat.Server.Deliveries
import ShirohaChat.Server.Confidentiality
import ShirohaChat.Server.DeliveryOrder
import ShirohaChat.Server.Heartbeats
import ShirohaChat.Client.Reconnecting
import ShirohaChat.Server.TokenOrigins
import ShirohaChat.Client.UserFiles
import ShirohaChat.Server.RequestOutcomes
import ShirohaChat.Server.ConnectionOutcomes
import ShirohaChat.Client.Gateway
import ShirohaChat.Wire.Requests
import ShirohaChat.Wire.RequestLoop
import ShirohaChat.Server.QueuedMessages
import ShirohaChat.Wire.MessageLoop
import ShirohaChat.Client.OpenChat
import ShirohaChat.Client.OpenChatRuns
import ShirohaChat.Server.Acceptance
import ShirohaChat.Client.StoredTexts
import ShirohaChat.Wire.SendLoop
